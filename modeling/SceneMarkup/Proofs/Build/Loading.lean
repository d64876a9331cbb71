import SceneMarkup.Build.Project
import SceneMarkup.Proofs.Build.Recency
import SceneMarkup.Proofs.Text.Utf8

/-! # Loads

What a load gives depends on the file that it reads, and not on what was loaded before: a module
that is kept was compiled from a source with the digest of the one read now, and the code of a
module comes from its source alone. The path shown for a file is part of a refusal only, and
refusals are not kept.
-/

namespace SceneMarkup

/-- Reading a path gives a text, or says that there is no file. -/
def Disk.TextOrAbsent (disk : Disk) (p : Path) : Prop :=
  ∀ f, disk.readText p = .error f → f = .notFound

theorem Disk.readText_of_read {disk : Disk} {p : Path} {bytes : List UInt8} {cs : List Char}
    (hr : disk.read p = .ok bytes) (hc : Text.Utf8.decode? bytes = some cs) :
    disk.readText p = .ok (String.ofList (Text.unifyLineEnds [] cs)) := by
  have ht : textOf? bytes = some (String.ofList (Text.unifyLineEnds [] cs)) := by
    rw [textOf?, hc]
    rfl
  rw [readText, hr]
  dsimp only
  rw [ht]

/-- A text of ASCII characters with no carriage return is read from a byte for each. -/
theorem Disk.readText_ascii {disk : Disk} {p : Path} {text : String}
    (hc : ∀ c ∈ text.toList, c.toNat < 128 ∧ c ≠ '\r')
    (hr : disk.read p = .ok (text.toList.map fun c => UInt8.ofNat c.toNat)) :
    disk.readText p = .ok text := by
  have hn : '\r' ∉ text.toList := fun hm => (hc _ hm).2 rfl
  rw [readText_of_read hr (Text.Utf8.decode?_ascii fun c hm => (hc c hm).1),
    Text.unifyLineEnds_of_not_mem hn, List.reverse_nil, List.nil_append, String.ofList_toList]

namespace Build

/-- Either code and no errors, or errors and no code. -/
def Outcome.Settled (o : Outcome) : Prop :=
  (∃ code, o.contents = some code ∧ o.errors = []) ∨ (o.contents = none ∧ o.errors ≠ [])

/-- What compiling a source gives. -/
def Outcome.ofSource (shown source : String) : Outcome :=
  match (Module.compile source (some shown)).1 with
  | .ok m => { contents := some m.code }
  | .error d => { errors := [.ofDiagnosis d] }

/-- The key of a source under a path. -/
def Key.ofSource (path source : String) : Key :=
  ⟨path, Digest.Md5.digest (Text.Utf8.encode source.toList)⟩

namespace Project

/-- What a load gives when every source is compiled. -/
def compileAnew (project : Project) (disk : Disk) (p : Path) : Except Fault Outcome :=
  let resolved := project.resolve p
  let shown := project.displayPath resolved
  match disk.readText resolved with
  | .ok source => .ok (.ofSource shown source)
  | .error .notFound => .ok { errors := [absentMessage shown] }
  | .error f => .error (.disk f)

/-- What happens to a project: its files are written and deleted, and files are loaded. -/
inductive Event where
  | write (p : Path) (bytes : List UInt8)
  | delete (p : Path)
  | load (p : Path)
  deriving Repr

/-- The disk behind an event. What fails changes nothing. -/
def diskAfter (disk : Disk) : Event → Disk
  | .write p bytes => (disk.write p bytes).toOption.getD disk
  | .delete p => (disk.remove p).toOption.getD disk
  | .load _ => disk

/-- What the loads among events give, one after the other. -/
def loads (project : Project) (disk : Disk) : List Event → List (Except Fault Outcome)
  | [] => []
  | .load p :: events =>
      let loaded := project.load disk p
      loaded.result :: loads loaded.project disk events
  | event :: events => loads project (diskAfter disk event) events

/-- What they give when a new project is set up for each. -/
def loadsAfresh (root : Path) (capacity : Int) (disk : Disk) :
    List Event → List (Except Fault Outcome)
  | [] => []
  | .load p :: events =>
      ((ofRoot root capacity).load disk p).result :: loadsAfresh root capacity disk events
  | event :: events => loadsAfresh root capacity (diskAfter disk event) events

/-- The source that a load reads, with the path it is read under. -/
def read? (root : Path) (disk : Disk) (p : Path) : Option (String × String) :=
  (disk.readText (root.join p)).toOption.map fun source => ((root.join p).text, source)

/-- The sources that the loads among events read. -/
def reads (root : Path) (disk : Disk) : List Event → List (String × String)
  | [] => []
  | .load p :: events => (read? root disk p).toList ++ reads root disk events
  | event :: events => reads root (diskAfter disk event) events

/-- Different sources read under one path have different digests. -/
def Distinguished (reads : List (String × String)) : Prop :=
  ∀ r ∈ reads, ∀ r' ∈ reads, r.1 = r'.1 →
    Digest.Md5.digest (Text.Utf8.encode r.2.toList) =
      Digest.Md5.digest (Text.Utf8.encode r'.2.toList) → r.2 = r'.2

/-- A module that is kept was compiled from a source that was read under its key. -/
structure Faithful (project : Project) (reads : List (String × String)) : Prop where
  capacity : 1 ≤ project.cache.capacity
  mirrors : ∃ past, project.cache.Mirrors past
  compiled : ∀ key m, project.cache.peek? key = some m → ∃ path source shown,
    (path, source) ∈ reads ∧ key = .ofSource path source ∧
      (Module.compile source shown).1 = .ok m

variable {project : Project} {root : Path} {capacity : Int} {disk : Disk} {p : Path}
  {known : List (String × String)} {source shown : String} {m : Module}

/-! ### Sources -/

theorem ofSource_of_compile {path : Option String} (h : (Module.compile source path).1 = .ok m)
    (shown : String) : Outcome.ofSource shown source = { contents := some m.code } := by
  unfold Outcome.ofSource
  unfold Module.compile Document.parseLogged at h ⊢
  cases hr : Document.read source.toList with
  | ok r =>
    rw [hr] at h
    obtain rfl := Except.ok.inj h
    rfl
  | error f =>
    rw [hr] at h
    cases h

theorem settled_ofSource (shown source : String) : (Outcome.ofSource shown source).Settled := by
  unfold Outcome.ofSource
  split
  · exact .inl ⟨_, rfl, rfl⟩
  · exact .inr ⟨rfl, List.cons_ne_nil _ _⟩

theorem faithful_ofRoot (hc : 1 ≤ capacity) (root : Path) : (ofRoot root capacity).Faithful [] :=
  ⟨hc, ⟨[], Cache.mirrors_empty capacity⟩, fun _ _ h => by cases h⟩

theorem Distinguished.mono {known' : List (String × String)} (h : Distinguished known')
    (hk : known ⊆ known') : Distinguished known :=
  fun r hr r' hr' => h r (hk hr) r' (hk hr')

theorem Faithful.mono {known' : List (String × String)} (h : project.Faithful known)
    (hk : known ⊆ known') : project.Faithful known' := by
  refine ⟨h.capacity, h.mirrors, fun key m hm => ?_⟩
  obtain ⟨path, source, shown, hr, he⟩ := h.compiled key m hm
  exact ⟨path, source, shown, hk hr, he⟩

theorem loadSource_of_hit {resolved : Path}
    (h : project.cache.peek? (.ofSource resolved.text source) = some m) :
    project.loadSource resolved shown source =
      ⟨.ok { contents := some m.code },
        { project with cache := (project.cache.get? (.ofSource resolved.text source)).2 },
        [hitRecord shown]⟩ := by
  unfold loadSource
  rw [← Key.ofSource]
  dsimp only
  rw [Cache.get?_of_some h]

theorem loadSource_of_refused {resolved : Path} {d : Diagnosis} {records : List Log.Record}
    (h : project.cache.peek? (.ofSource resolved.text source) = none)
    (hc : Module.compile source (some shown) = (.error d, records)) :
    project.loadSource resolved shown source =
      ⟨.ok { errors := [.ofDiagnosis d] }, project, records ++ [refusedRecord shown d]⟩ := by
  unfold loadSource
  rw [← Key.ofSource]
  dsimp only
  rw [Cache.get?_of_none h, hc]

theorem loadSource_of_compiled {resolved : Path} {records : List Log.Record}
    {cache : Cache Key Module}
    (h : project.cache.peek? (.ofSource resolved.text source) = none)
    (hc : Module.compile source (some shown) = (.ok m, records))
    (hs : project.cache.set? (.ofSource resolved.text source) m = some cache) :
    project.loadSource resolved shown source =
      ⟨.ok { contents := some m.code }, { project with cache }, records⟩ := by
  unfold loadSource
  rw [← Key.ofSource]
  dsimp only
  rw [Cache.get?_of_none h, hc]
  dsimp only
  rw [hs]

theorem loadSource_of_full {resolved : Path} {records : List Log.Record}
    (h : project.cache.peek? (.ofSource resolved.text source) = none)
    (hc : Module.compile source (some shown) = (.ok m, records))
    (hs : project.cache.set? (.ofSource resolved.text source) m = none) :
    project.loadSource resolved shown source = ⟨.error .noRoom, project, records⟩ := by
  unfold loadSource
  rw [← Key.ofSource]
  dsimp only
  rw [Cache.get?_of_none h, hc]
  dsimp only
  rw [hs]

theorem Faithful.loadSource (h : project.Faithful known) (hd : Distinguished known)
    {resolved : Path} (hs : (resolved.text, source) ∈ known) (shown : String) :
    (project.loadSource resolved shown source).result = .ok (.ofSource shown source) ∧
    (project.loadSource resolved shown source).project.root = project.root ∧
    (project.loadSource resolved shown source).project.Faithful known := by
  obtain ⟨past, hm⟩ := h.mirrors
  cases hp : project.cache.peek? (.ofSource resolved.text source) with
  | some m =>
    obtain ⟨path, source', shown', hr, hk, hc⟩ := h.compiled _ m hp
    obtain rfl : resolved.text = path := congrArg Key.path hk
    obtain rfl : source = source' := hd _ hs _ hr rfl (congrArg Key.digest hk)
    rw [loadSource_of_hit hp]
    refine ⟨congrArg _ (ofSource_of_compile hc shown).symm, rfl, ?_, ⟨_, hm.get _⟩, ?_⟩
    · exact (Cache.capacity_get? project.cache _).symm ▸ h.capacity
    · intro key m' hk'
      exact h.compiled key m' ((Cache.peek?_get? ..).symm.trans hk')
  | none =>
    rcases hc : Module.compile source (some shown) with ⟨d | m, records⟩
    · rw [loadSource_of_refused hp hc, Outcome.ofSource, hc]
      exact ⟨rfl, rfl, h⟩
    · obtain ⟨cache, hs', hc', hm'⟩ := hm.set h.capacity (.ofSource resolved.text source) m
      rw [loadSource_of_compiled hp hc hs', Outcome.ofSource, hc]
      refine ⟨rfl, rfl, hc'.symm ▸ h.capacity, ⟨_, hm'⟩, fun key m' hk => ?_⟩
      rcases Cache.peek?_of_set? hs' hk with ⟨rfl, rfl⟩ | hk
      · exact ⟨_, source, some shown, hs, rfl, by rw [hc]⟩
      · exact h.compiled key m' hk

/-- A load gives what compiling the file anew gives. -/
theorem Faithful.load (h : project.Faithful known) (disk : Disk) (p : Path)
    (hd : Distinguished ((read? project.root disk p).toList ++ known)) :
    (project.load disk p).result = project.compileAnew disk p ∧
    (project.load disk p).project.root = project.root ∧
    (project.load disk p).project.Faithful ((read? project.root disk p).toList ++ known) := by
  have hk := h.mono (List.subset_append_right (read? project.root disk p).toList known)
  cases hr : disk.readText (project.resolve p) with
  | ok source =>
    have hs : ((project.resolve p).text, source) ∈ (read? project.root disk p).toList ++ known := by
      refine List.mem_append_left known (Option.mem_toList.mpr ?_)
      rw [read?, ← resolve, hr]
      rfl
    rw [Project.load, compileAnew, hr]
    exact hk.loadSource hd hs _
  | error f =>
    rw [Project.load, compileAnew, hr]
    cases f <;> exact ⟨rfl, rfl, hk⟩

theorem load_ofRoot (hc : 1 ≤ capacity) (root : Path) (disk : Disk) (p : Path) :
    ((ofRoot root capacity).load disk p).result = (ofRoot root capacity).compileAnew disk p := by
  refine ((faithful_ofRoot hc root).load disk p ?_).1
  intro r hr r' hr' _ _
  rw [List.append_nil, Option.mem_toList] at hr hr'
  exact congrArg Prod.snd (Option.some.inj (hr.symm.trans hr'))

theorem settled_of_compileAnew {o : Outcome} (h : project.compileAnew disk p = .ok o) :
    o.Settled := by
  rw [compileAnew] at h
  split at h
  · obtain rfl := Except.ok.inj h
    exact settled_ofSource ..
  · obtain rfl := Except.ok.inj h
    exact .inr ⟨rfl, List.cons_ne_nil _ _⟩
  · cases h

/-- Compiling a file has an outcome exactly when reading it gives a text or finds no file. -/
theorem exists_compileAnew_iff :
    (∃ o, project.compileAnew disk p = .ok o) ↔ disk.TextOrAbsent (project.resolve p) := by
  rw [compileAnew, Disk.TextOrAbsent]
  cases hr : disk.readText (project.resolve p) with
  | ok source =>
    constructor
    · rintro - f ⟨⟩
    · intro _
      exact ⟨_, rfl⟩
  | error f =>
    constructor
    · rintro ⟨o, ho⟩ f' hf
      obtain rfl := Except.error.inj hf
      cases f <;> cases ho
      rfl
    · intro h
      obtain rfl := h f rfl
      exact ⟨_, rfl⟩

/-! ### Histories -/

theorem loads_of_faithful (hc : 1 ≤ capacity) (h : project.Faithful known) (disk : Disk)
    (events : List Event) (hd : Distinguished (known ++ reads project.root disk events)) :
    project.loads disk events = loadsAfresh project.root capacity disk events := by
  induction events generalizing project disk known with
  | nil => rfl
  | cons event events ih =>
    cases event with
    | write p bytes => exact ih h _ hd
    | delete p => exact ih h _ hd
    | load p =>
      rw [reads] at hd
      obtain ⟨hr, hp, hf⟩ := h.load disk p (hd.mono fun r hr => by grind)
      rw [loads, loadsAfresh, hr, load_ofRoot hc, ih hf disk (hd.mono fun r hr => by grind), hp]
      rfl

/-- Every load gives what a load by a new project gives, and that is what compiling the file as it
lies on the disk gives: whatever was loaded, written and deleted before, as long as no two sources
read under one path have the same digest. -/
theorem loads_afresh (hc : 1 ≤ capacity) (root : Path) (disk : Disk) (events : List Event)
    (hd : Distinguished (reads root disk events)) :
    (ofRoot root capacity).loads disk events = loadsAfresh root capacity disk events ∧
    ∀ disk p,
      ((ofRoot root capacity).load disk p).result = (ofRoot root capacity).compileAnew disk p :=
  ⟨loads_of_faithful hc (faithful_ofRoot hc root) disk events hd, load_ofRoot hc root⟩

/-- A file that is written, spoilt, deleted and restored, and another one that is refused. -/
def edits : List Event :=
  let a : Path := ⟨.relative, ["a.opal"]⟩
  let b : Path := ⟨.relative, ["b.opal"]⟩
  [.write a (Text.Utf8.encode "<a />".toList), .load a, .write a [0xFF], .load a, .delete a,
    .load a, .write b (Text.Utf8.encode "<b>".toList), .load b,
    .write a (Text.Utf8.encode "<a />".toList), .load a]

def lone : String := "\n".intercalate
  ["import * as THREE from 'three';", "", "const scene = new THREE.Scene();", "// fragment: a",
    "const renderer = new THREE.WebGLRenderer();",
    "document.getElementById(\"root\").appendChild(renderer.domElement);"] ++ "\n"

/-- What is wrong with a tag that is not closed. -/
def unclosed : Message where
  text := "Missing closing tag for <b>. Did you mean to use />?"
  path := some "b.opal"
  line := some 1
  column := some 4
  excerpt := "> 1 | <b>\n    |    ^"
  reason := some "MissingClosingTag"

theorem loads_afresh_edits :
    (1 : Int) ≤ 1 ∧ Distinguished (reads ⟨.relative, []⟩ (Disk.blank ["work"]) edits) ∧
    (ofRoot ⟨.relative, []⟩ 1).loads (Disk.blank ["work"]) edits =
      [.ok { contents := some lone }, .error (.disk .undecodable),
        .ok { errors := [absentMessage "a.opal"] }, .ok { errors := [unclosed] },
        .ok { contents := some lone }] := by
  have hr : reads ⟨.relative, []⟩ (Disk.blank ["work"]) edits =
      [("a.opal", "<a />"), ("b.opal", "<b>"), ("a.opal", "<a />")] := rfl
  have hd : Distinguished (reads ⟨.relative, []⟩ (Disk.blank ["work"]) edits) := by
    rw [hr]
    rintro r h r' h' hp -
    simp only [List.mem_cons, List.not_mem_nil, or_false] at h h'
    rcases h with rfl | rfl | rfl <;> rcases h' with rfl | rfl | rfl <;> simp_all
  have hf : loadsAfresh ⟨.relative, []⟩ 1 (Disk.blank ["work"]) edits =
      [.ok { contents := some lone }, .error (.disk .undecodable),
        .ok { errors := [absentMessage "a.opal"] }, .ok { errors := [unclosed] },
        .ok { contents := some lone }] := by
    with_unfolding_all rfl
  exact ⟨by decide, hd, (loads_afresh (by decide) _ _ _ hd).1.trans hf⟩

end Project

end Build

end SceneMarkup
