import Mathlib.Data.Finite.Prod
import Mathlib.Data.Fintype.Pigeonhole
import SceneMarkup.Proofs.Build.Loading
import SceneMarkup.Proofs.Disk.Writing
import SceneMarkup.Proofs.Document.Printer
import SceneMarkup.Proofs.Module.Layout

/-! # What a build writes

A build that has errors leaves the disk as it is. One that has none writes the code of its entry,
as the entry was before, and makes the directories that were missing above the output. Two things
come between: a device keeps nothing that is written to it, and a module that is kept was compiled
from a source with the same digest, which is not always the same source.
-/

namespace SceneMarkup

namespace Build

namespace Project

/-- A project that was set up anew and has since loaded and built, on whatever disk there was each
time, with the sources that it has read, each under its path. -/
inductive Used (root : Path) (capacity : Int) : Project → List (String × String) → Prop where
  | new : Used root capacity (ofRoot root capacity) []
  | load {project : Project} {known : List (String × String)} (h : Used root capacity project known)
      (disk : Disk) (p : Path) : Used root capacity (project.load disk p).project
        ((read? root disk p).toList ++ known)
  | build {project : Project} {known : List (String × String)}
      (h : Used root capacity project known) (disk : Disk) (entry outfile : Path) :
      Used root capacity (project.build disk entry outfile).1.project
        ((read? root disk entry).toList ++ known)

/-- No other source among those read under the path has the digest of the one that lies there. -/
def Unmistaken (known : List (String × String)) (disk : Disk) (p : Path) : Prop :=
  ∀ source, disk.readText p = .ok source → ∀ source', (p.text, source') ∈ known →
    Digest.Md5.digest (Text.Utf8.encode source'.toList) =
      Digest.Md5.digest (Text.Utf8.encode source.toList) → source' = source

/-- A module was compiled from a source that was read under its key. -/
def Sourced (known : List (String × String)) (key : Key) (m : Module) : Prop :=
  ∃ path source shown, (path, source) ∈ known ∧ key = .ofSource path source ∧
    (Module.compile source shown).1 = .ok m

variable {project : Project} {root : Path} {capacity : Int} {disk : Disk} {p entry outfile : Path}
  {known : List (String × String)} {source shown : String} {resolved : Path} {key : Key}
  {m : Module} {o o' : Outcome}

/-! ### Where modules come from -/

/-- The code of an outcome without errors is that of a module that was kept under the key of the
source, or was compiled just now. -/
theorem exists_module_of_loadSource
    (h : (project.loadSource resolved shown source).result = .ok o) (he : o.errors = []) :
    ∃ m, o.contents = some m.code ∧
      (project.cache.peek? (.ofSource resolved.text source) = some m ∨
        (Module.compile source (some shown)).1 = .ok m) := by
  cases hp : project.cache.peek? (.ofSource resolved.text source) with
  | some m =>
    rw [loadSource_of_hit hp] at h
    obtain rfl := Except.ok.inj h
    exact ⟨m, rfl, .inl rfl⟩
  | none =>
    rcases hc : Module.compile source (some shown) with ⟨d | m, records⟩
    · rw [loadSource_of_refused hp hc] at h
      obtain rfl := Except.ok.inj h
      cases he
    · cases hs : project.cache.set? (.ofSource resolved.text source) m with
      | some cache =>
        rw [loadSource_of_compiled hp hc hs] at h
        obtain rfl := Except.ok.inj h
        exact ⟨m, rfl, .inr rfl⟩
      | none =>
        rw [loadSource_of_full hp hc hs] at h
        cases h

theorem peek?_loadSource
    (h : (project.loadSource resolved shown source).project.cache.peek? key = some m) :
    project.cache.peek? key = some m ∨
      key = .ofSource resolved.text source ∧ (Module.compile source (some shown)).1 = .ok m := by
  cases hp : project.cache.peek? (.ofSource resolved.text source) with
  | some m' =>
    rw [loadSource_of_hit hp] at h
    exact .inl ((Cache.peek?_get? ..).symm.trans h)
  | none =>
    rcases hc : Module.compile source (some shown) with ⟨d | m', records⟩
    · rw [loadSource_of_refused hp hc] at h
      exact .inl h
    · cases hs : project.cache.set? (.ofSource resolved.text source) m' with
      | some cache =>
        rw [loadSource_of_compiled hp hc hs] at h
        rcases Cache.peek?_of_set? hs h with ⟨rfl, rfl⟩ | h
        · exact .inr ⟨rfl, rfl⟩
        · exact .inl h
      | none =>
        rw [loadSource_of_full hp hc hs] at h
        exact .inl h

theorem peek?_load (h : (project.load disk p).project.cache.peek? key = some m) :
    project.cache.peek? key = some m ∨ ∃ source, disk.readText (project.resolve p) = .ok source ∧
      key = .ofSource (project.resolve p).text source ∧
      ∃ shown, (Module.compile source shown).1 = .ok m := by
  cases hr : disk.readText (project.resolve p) with
  | ok source =>
    rw [Project.load, hr] at h
    rcases peek?_loadSource h with h | ⟨hk, hm⟩
    · exact .inl h
    · exact .inr ⟨source, rfl, hk, _, hm⟩
  | error f =>
    rw [Project.load, hr] at h
    cases f <;> exact .inl h

theorem root_load : (project.load disk p).project.root = project.root := by
  unfold Project.load
  dsimp only
  split
  · unfold loadSource
    dsimp only
    split
    · rfl
    · split
      · rfl
      · split <;> rfl
  · rfl
  · rfl

theorem project_build :
    (project.build disk entry outfile).1.project = (project.load disk entry).project := by
  unfold build
  dsimp only
  split
  · rfl
  · split
    · split <;> rfl
    · rfl

theorem Used.root_eq (h : Used root capacity project known) : project.root = root := by
  induction h with
  | new => rfl
  | load _ disk p ih => exact root_load.trans ih
  | build _ disk entry outfile ih => rw [project_build, root_load, ih]

theorem sourced_load (h : ∀ key m, project.cache.peek? key = some m → Sourced known key m)
    (hm : (project.load disk p).project.cache.peek? key = some m) :
    Sourced ((read? project.root disk p).toList ++ known) key m := by
  rcases peek?_load hm with hm | ⟨source, hr, hk, shown, hc⟩
  · obtain ⟨path, source, shown, hs, he⟩ := h key m hm
    exact ⟨path, source, shown, List.mem_append_right _ hs, he⟩
  · refine ⟨_, source, shown, List.mem_append_left _ ?_, hk, hc⟩
    rw [read?, ← resolve, hr, Option.mem_toList]
    rfl

theorem Used.sourced (h : Used root capacity project known) :
    ∀ key m, project.cache.peek? key = some m → Sourced known key m := by
  induction h with
  | new =>
    intro key m hm
    cases hm
  | load h disk p ih => exact fun key m hm => h.root_eq ▸ sourced_load ih hm
  | build h disk entry outfile ih =>
    intro key m hm
    rw [project_build] at hm
    exact h.root_eq ▸ sourced_load ih hm

/-! ### Builds -/

/-- A build whose load has no code leaves the disk as it is. -/
theorem build_of_not_ok (outfile : Path)
    (h : ∀ o, (project.load disk entry).result = .ok o → o.errors ≠ []) :
    project.build disk entry outfile = (project.load disk entry, disk) := by
  unfold build
  dsimp only
  split
  · rfl
  · next o ho =>
    have he : o.isOk = false := List.isEmpty_eq_false_iff.mpr (h o ho)
    rw [he]
    rfl

/-- A build that loads code ends as the writing of the code ends. -/
theorem build_of_ok (outfile : Path) (h : (project.load disk entry).result = .ok o)
    (he : o.errors = []) :
    let writing := disk.writeBelow (project.resolve outfile)
      (Text.Utf8.encode (o.contents.getD "").toList)
    (project.build disk entry outfile).2 = writing.2 ∧
      (project.build disk entry outfile).1.result = (writing.1.mapError .disk).map fun _ => o := by
  have ho : o.isOk = true := List.isEmpty_iff.mpr he
  have hp : (project.load disk entry).project.resolve outfile = project.resolve outfile :=
    congrArg (Path.join · outfile) root_load
  unfold build
  dsimp only
  rw [h]
  dsimp only
  rw [if_pos ho, hp]
  split
  · next hw =>
    rw [hw]
    exact ⟨rfl, rfl⟩
  · next hw =>
    rw [hw]
    exact ⟨rfl, rfl⟩

theorem result_build_of_ok (h : (project.load disk entry).result = .ok o) (he : o.errors = [])
    (hw : (disk.writeBelow (project.resolve outfile)
      (Text.Utf8.encode (o.contents.getD "").toList)).1 = .ok ()) :
    (project.build disk entry outfile).1.result = .ok o := by
  rw [(build_of_ok outfile h he).2, hw]
  rfl

theorem exists_contents_of_load (hl : (project.load disk p).result = .ok o)
    (he : o.errors = []) : ∃ code, o.contents = some code := by
  unfold Project.load at hl
  dsimp only at hl
  split at hl
  · obtain ⟨m, hm, -⟩ := exists_module_of_loadSource hl he
    exact ⟨m.code, hm⟩
  · obtain rfl := Except.ok.inj hl
    cases he
  · cases hl

/-- A build that loads code and gets through has written that code. -/
theorem written_of_build (h : (project.load disk entry).result = .ok o) (he : o.errors = [])
    (hb : (project.build disk entry outfile).1.result = .ok o') :
    o' = o ∧ ∃ code, o.contents = some code ∧
      (disk.Written (project.resolve outfile) (Text.Utf8.encode code.toList)
          (project.build disk entry outfile).2 ∨
        disk.Cleared (project.resolve outfile).parent (project.build disk entry outfile).2 ∧
          (project.build disk entry outfile).2.LeadsToDevice (project.resolve outfile)) := by
  obtain ⟨code, hc⟩ := exists_contents_of_load h he
  obtain ⟨hd, hr⟩ := build_of_ok outfile h he
  rw [hc, Option.getD_some] at hd hr
  rw [hd]
  rw [hr] at hb
  rcases hw : disk.writeBelow (project.resolve outfile) (Text.Utf8.encode code.toList) with
    ⟨f | _, disk'⟩
  · rw [hw] at hb
    cases hb
  · rw [hw] at hb
    exact ⟨(Except.ok.inj hb).symm, code, hc, Disk.written_of_writeBelow hw⟩

/-- Sources compile alike under all paths. -/
theorem exists_compile_of_compile {path : Option String}
    (h : (Module.compile source path).1 = .ok m) (shown : String) :
    ∃ m', (Module.compile source (some shown)).1 = .ok m' ∧ m'.code = m.code := by
  have hs := ofSource_of_compile h shown
  unfold Outcome.ofSource at hs
  split at hs
  · next m' hm => exact ⟨m', hm, Option.some.inj (congrArg Outcome.contents hs)⟩
  · cases congrArg Outcome.contents hs

theorem Used.exists_module_of_load (h : Used root capacity project known)
    (hd : Unmistaken known disk (project.resolve p))
    (hl : (project.load disk p).result = .ok o) (he : o.errors = []) :
    ∃ source m, disk.readText (project.resolve p) = .ok source ∧
      (Module.compile source (some (project.displayPath (project.resolve p)))).1 = .ok m ∧
      o.contents = some m.code := by
  unfold Project.load at hl
  dsimp only at hl
  split at hl
  · next source hr =>
    obtain ⟨m, hm, hk | hc⟩ := exists_module_of_loadSource hl he
    · obtain ⟨path, source', shown, hs, hk, hc⟩ := h.sourced _ m hk
      obtain rfl : (project.resolve p).text = path := congrArg Key.path hk
      obtain rfl := hd source hr source' hs (congrArg Key.digest hk).symm
      obtain ⟨m', hc', hm'⟩ := exists_compile_of_compile hc _
      exact ⟨source', m', hr, hc', hm'.symm ▸ hm⟩
    · exact ⟨source, m, hr, hc, hm⟩
  · obtain rfl := Except.ok.inj hl
    cases he
  · cases hl

/-- A disk with one source, a directory for output and a link to that. -/
def linked : Disk :=
  (((Disk.blank ["work"]).put ["work", "a.opal"] (.file (Text.Utf8.encode "<a />".toList))).put
    ["work", "dist"] .directory).put ["work", "out"] (.link ⟨.relative, ["dist"]⟩)

def filled (bytes : List UInt8) : Disk :=
  (linked.put ["work", "dist", "js"] .directory).put ["work", "dist", "js", "a.js"] (.file bytes)

theorem writeBelow_linked (bytes : List UInt8) :
    linked.writeBelow ⟨.relative, ["out", "js", "a.js"]⟩ bytes = (.ok (), filled bytes) := rfl

theorem locate_filled (bytes : List UInt8) :
    (filled bytes).locate ⟨.relative, ["out", "js", "a.js"]⟩ =
      .ok ["work", "dist", "js", "a.js"] := rfl

def settledIn : Project := ((ofRoot ⟨.relative, []⟩ 1).load linked ⟨.relative, ["a.opal"]⟩).project

end Project

end Build

namespace Digest.Md5

def final (bytes : List UInt8) : State :=
  absorbBlocks initial ((padded bytes).length / 64) (padded bytes)

def shown (s : State) : String :=
  hex ([s.a, s.b, s.c, s.d].flatMap fun w => littleEndian w.toNat 4)

theorem digest_eq (bytes : List UInt8) : digest bytes = shown (final bytes) := by
  rw [digest, shown, final]

instance : Finite State := by
  refine Finite.of_injective (fun s => (s.a.toFin, s.b.toFin, s.c.toFin, s.d.toFin)) fun s t h => ?_
  obtain ⟨a, b, c, d⟩ := s
  obtain ⟨a', b', c', d'⟩ := t
  simpa [← UInt32.toFin_inj] using h

/-- There are more texts than digests. -/
theorem exists_digest_eq (texts : Nat → List UInt8) :
    ∃ i j, i ≠ j ∧ digest (texts i) = digest (texts j) := by
  obtain ⟨i, j, hne, h⟩ := Finite.exists_ne_map_eq_of_infinite fun n => final (texts n)
  exact ⟨i, j, hne, by rw [digest_eq, digest_eq, h]⟩

end Digest.Md5

namespace Build

def roots (n : Nat) : Document := ⟨[], List.replicate n (.mk "a" [] [] [] 0 0)⟩

def rootsText (n : Nat) : String := (roots n).printed

/-- The module has a line for each root. -/
theorem exists_compile_roots (n : Nat) (path : Option String) :
    ∃ m, (Module.compile (rootsText n) path).1 = .ok m ∧
      (Text.lines m.code.toList).length = n + 6 := by
  have hw : (roots n).WellFormed := ⟨nofun, fun f hf => by
    rw [(List.mem_replicate.mp hf).2]
    exact Fragment.wellFormed_plain (by simp) 0 0⟩
  obtain ⟨d, hd, hu⟩ := Document.parse_of_derives hw.derives path
  have hs : d.scripts = [] := congrArg Document.scripts hu
  have hf : d.fragments.length = n := by
    simpa [roots, Document.unplaced] using congrArg (fun d => d.fragments.length) hu
  have hl : (Module.listing d).lines.length = n + 5 := by
    simp [Module.listing, hs, hf, Listing.writeBlank, Module.headerLine, Listing.empty]
  have hn := (Module.laid_listing d).lineFeed_not_mem (Document.derives_of_parse hd).wellFormed
  refine ⟨_, Module.compile_of_ok hd, ?_⟩
  rw [Listing.lines_code (Module.laid_listing d).ne_nil hn, List.length_append, List.length_map, hl]
  rfl

theorem mem_rootsText {n : Nat} {c : Char} (h : c ∈ (rootsText n).toList) :
    c.toNat < 128 ∧ c ≠ '\r' := by
  have hp : (Fragment.mk "a" [] [] [] 0 0).printed = ['<', 'a', '/', '>'] := by decide
  have hc : c ∈ ['<', 'a', '/', '>'] := by
    simp only [rootsText, Document.printed, roots, List.flatMap_nil, List.nil_append,
      String.toList_ofList, List.mem_flatMap] at h
    obtain ⟨f, hf, hc⟩ := h
    rwa [(List.mem_replicate.mp hf).2, hp] at hc
  simp only [List.mem_cons, List.not_mem_nil, or_false] at hc
  rcases hc with rfl | rfl | rfl | rfl <;> decide

namespace Project

def rooted (n : Nat) : Disk := (Disk.blank ["work"]).put ["work", "a.opal"]
  (.file ((rootsText n).toList.map fun c => UInt8.ofNat c.toNat))

def source : Path := ⟨.relative, ["a.opal"]⟩

theorem readText_rooted (n : Nat) : (rooted n).readText source = .ok (rootsText n) :=
  Disk.readText_ascii (fun _ => mem_rootsText) rfl

def rootedIn (n : Nat) : Project := ((ofRoot ⟨.relative, []⟩ 1).load (rooted n) source).project

theorem used_rootedIn (n : Nat) :
    Used ⟨.relative, []⟩ 1 (rootedIn n) [("a.opal", rootsText n)] := by
  have hr : read? ⟨.relative, []⟩ (rooted n) source = some ("a.opal", rootsText n) := by
    rw [read?, show Path.join ⟨.relative, []⟩ source = source from rfl, readText_rooted]
    rfl
  have hu : Used ⟨.relative, []⟩ 1 (ofRoot ⟨.relative, []⟩ 1) [] := .new
  have := hu.load (rooted n) source
  rwa [hr] at this

theorem rootedIn_eq {n : Nat} (hm : (Module.compile (rootsText n) (some "a.opal")).1 = .ok m) :
    rootedIn n = ⟨⟨.relative, []⟩, 1, [(.ofSource "a.opal" (rootsText n), m)],
      [.ofSource "a.opal" (rootsText n)]⟩ := by
  rcases hc : Module.compile (rootsText n) (some "a.opal") with ⟨r, records⟩
  obtain rfl : r = .ok m := by rw [← hm, hc]
  have hr : (rooted n).readText ((ofRoot ⟨.relative, []⟩ 1).resolve source) = .ok (rootsText n) :=
    readText_rooted n
  rw [rootedIn, Project.load, hr]
  exact congrArg Step.project (loadSource_of_compiled rfl hc rfl)

theorem load_rootedIn {i j : Nat} (hm : (Module.compile (rootsText i) (some "a.opal")).1 = .ok m)
    (h : Digest.Md5.digest (Text.Utf8.encode (rootsText i).toList) =
      Digest.Md5.digest (Text.Utf8.encode (rootsText j).toList)) :
    ((rootedIn i).load (rooted j) source).result = .ok { contents := some m.code } := by
  have hk : Key.ofSource "a.opal" (rootsText i) = .ofSource "a.opal" (rootsText j) := by
    rw [Key.ofSource, Key.ofSource, h]
  have hr : (rooted j).readText ((rootedIn i).resolve source) = .ok (rootsText j) := by
    rw [rootedIn_eq hm]
    exact readText_rooted j
  have hp : (rootedIn i).cache.peek? (.ofSource ((rootedIn i).resolve source).text (rootsText j)) =
      some m := by
    rw [rootedIn_eq hm, hk]
    exact List.lookup_cons_self
  rw [Project.load, hr]
  exact congrArg Step.result (loadSource_of_hit hp)

theorem writeBelow_rooted (n : Nat) (bytes : List UInt8) :
    ((rooted n).writeBelow ⟨.relative, ["a.js"]⟩ bytes).1 = .ok () := rfl

/-- A disk with a source and a device. -/
def nulled : Disk :=
  ((rooted 1).put ["dev"] .directory).put ["dev", "null"] (.device [])

theorem writeBelow_nulled (bytes : List UInt8) :
    nulled.writeBelow ⟨.slash, ["dev", "null"]⟩ bytes = (.ok (), nulled) := rfl

theorem load_nulled (hm : (Module.compile (rootsText 1) (some "a.opal")).1 = .ok m) :
    ((ofRoot ⟨.relative, []⟩ 1).load nulled source).result = .ok { contents := some m.code } := by
  have hr : nulled.readText ((ofRoot ⟨.relative, []⟩ 1).resolve source) = .ok (rootsText 1) :=
    Disk.readText_ascii (fun _ => mem_rootsText) rfl
  rw [load_ofRoot (by decide), compileAnew, hr]
  exact congrArg Except.ok (ofSource_of_compile hm "a.opal")

end Project

end Build

end SceneMarkup
