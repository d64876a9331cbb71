import SceneMarkup.Proofs.Disk.Writing
import SceneMarkup.Proofs.Http.Framing
import SceneMarkup.Proofs.Server.Entry
import SceneMarkup.Proofs.Server.Walk

/-! # Confinement

What the server answers depends on nothing outside its root: two disks that agree on the root and
what lies below it give the same answers. The module of the entry is read wherever the path of the
entry leads, so it counts only if that path does not lead away from the root.
-/

namespace SceneMarkup.Server

open Disk (longestName)

variable {s : Server} {d d₁ d₂ : Disk} {p : Path} {base place : Place} {names : List String}

/-! ### Files below the root -/

/-- Two disks with the same working directory hold the same at a place and below it. -/
structure AgreeBelow (d₁ d₂ : Disk) (base : Place) : Prop where
  here : d₁.here = d₂.here
  at? : ∀ place, base <+: place → d₁.at? place = d₂.at? place

theorem agreeBelow_put {entry : Disk.Entry} (hn : d.at? place = none) (h : ¬ base <+: place) :
    AgreeBelow d (d.put place entry) base := by
  refine ⟨rfl, fun other hb => (Disk.at?_put_of_ne (by simp [hn]) ?_ ?_).symm⟩
  · simp [Disk.names_eq_nil hn]
  · rintro rfl
    exact h hb

theorem AgreeBelow.trans (h : AgreeBelow d d₁ base) (h' : AgreeBelow d₁ d₂ base) :
    AgreeBelow d d₂ base :=
  ⟨h.here.trans h'.here, fun place hb => (h.at? place hb).trans (h'.at? place hb)⟩

theorem AgreeBelow.resolved_eq (h : AgreeBelow d₁ d₂ base) (hw₁ : d₁.WellFormed)
    (hw₂ : d₂.WellFormed) (p : Path) : resolved d₁ p = resolved d₂ p := by
  rw [Server.resolved_eq hw₁, Server.resolved_eq hw₂, Disk.start, Disk.start, h.here]

theorem AgreeBelow.find?_eq (h : AgreeBelow d₁ d₂ base) (hw₁ : d₁.WellFormed) (hw₂ : d₂.WellFormed)
    (hs : ∀ name ∈ base, name.utf8ByteSize ≤ longestName) (hb : base <+: place)
    (hd : ∀ name ∈ place, name ≠ "..") : d₁.find? (pathTo place) = d₂.find? (pathTo place) := by
  obtain ⟨rest, rfl⟩ := hb
  obtain ⟨hd, hr⟩ := List.forall_mem_append.mp hd
  have hn : ∀ name ∈ base, name ≠ ".." ∧ name.utf8ByteSize ≤ longestName :=
    fun name hm => ⟨hd name hm, hs name hm⟩
  have hl : d₁.lookFrom [] (base ++ rest) = d₂.lookFrom [] (base ++ rest) := by
    rw [hw₁.lookFrom_append hn, hw₂.lookFrom_append hn]
    refine lookFrom_congr fun front hf => ?_
    rw [List.nil_append, foldl_lexicalStep fun name hm => hr name (hf.subset hm)]
    exact h.at? _ (List.prefix_append ..)
  rw [hw₁.find?_eq, hw₂.find?_eq]
  split_ifs
  · rfl
  · rfl
  · exact hl

/-- Without links, a file is served by the names of its path alone. -/
theorem serveFile_lexical (hw : d.WellFormed) (types : Http.MediaType.Table) (requested : String) :
    s.serveFile types d requested =
      if (s.target requested).parts.any Disk.hasNull then .error .nullInPath
      else if (resolved d s.root).isPrefixOf (resolved d (s.target requested)) then
        match Http.Response.file? types d (pathTo (resolved d (s.target requested))) with
        | .ok response => .ok (response.getD notFound)
        | .error f => .error (.disk f)
      else .ok notFound := by
  cases hr : Http.Response.file? types d (pathTo (resolved d (s.target requested))) <;>
    simp [serveFile, isCircular_eq_false hw, hr]

theorem AgreeBelow.serveFile_eq (h : AgreeBelow d₁ d₂ (resolved d₁ s.root)) (hw₁ : d₁.WellFormed)
    (hw₂ : d₂.WellFormed) (hs : ∀ name ∈ resolved d₁ s.root, name.utf8ByteSize ≤ longestName)
    (types : Http.MediaType.Table) (requested : String) :
    s.serveFile types d₁ requested = s.serveFile types d₂ requested := by
  rw [serveFile_lexical hw₁, serveFile_lexical hw₂, ← h.resolved_eq hw₁ hw₂,
    ← h.resolved_eq hw₁ hw₂]
  split
  · rfl
  · split
    · next hp =>
      rw [Http.Response.file?, Http.Response.file?, Disk.file?, Disk.file?,
        h.find?_eq hw₁ hw₂ hs (List.isPrefixOf_iff_prefix.mp hp) (ne_dots_of_mem_resolved hw₁)]
    · rfl

theorem exists_of_file?_eq {types : Http.MediaType.Table} {response : Http.Response}
    (h : Http.Response.file? types d p = .ok (some response)) :
    ∃ bytes, d.find? p = .ok (some (.file bytes)) ∧ response = .ofFile types p bytes := by
  rw [Http.Response.file?, Disk.file?] at h
  cases hf : d.find? p with
  | error f =>
    rw [hf] at h
    cases h
  | ok found =>
    rw [hf] at h
    cases found with
    | none => cases h
    | some entry =>
      cases entry with
      | file bytes =>
        obtain rfl := Option.some.inj (Except.ok.inj h)
        exact ⟨bytes, rfl, rfl⟩
      | _ => cases h

/-- An answer with status 200 is the file at the place that was asked for, which lies below the
root. -/
theorem exists_file_of_serveFile {types : Http.MediaType.Table} {requested : String}
    {response : Http.Response} (hw : d.WellFormed) (h : s.serveFile types d requested = .ok response)
    (hs : response.status = 200) :
    ∃ bytes, resolved d s.root <+: resolved d (s.target requested) ∧
      d.at? (resolved d (s.target requested)) = some (.file bytes) ∧
      response = .ofFile types (pathTo (resolved d (s.target requested))) bytes := by
  rw [serveFile_lexical hw] at h
  split at h
  · cases h
  · split at h
    · next hp =>
      split at h
      · next found hf =>
        cases found with
        | none =>
          obtain rfl := Except.ok.inj h
          cases hs
        | some found =>
          obtain rfl : found = response := Except.ok.inj h
          obtain ⟨bytes, he, rfl⟩ := exists_of_file?_eq hf
          have hd := ne_dots_of_mem_resolved (p := s.target requested) hw
          exact ⟨bytes, List.isPrefixOf_iff_prefix.mp hp, at?_of_find? hw hd he, rfl⟩
      · cases h
    · obtain rfl := Except.ok.inj h
      cases hs

/-! ### The module of the entry -/

/-- On the way to the base or to the working directory, or below the base. -/
def Nearby (base here place : Place) : Prop := place <+: base ∨ base <+: place ∨ place <+: here

/-- There is something at the root, and the path of the entry does not lead away from there. -/
structure EntryWithin (s : Server) (d : Disk) : Prop where
  root : d.at? (resolved d s.root) ≠ none
  path : ∀ front, front <+: (s.project.resolve (Path.ofText s.entry)).parts →
    Nearby (resolved d s.root) d.here
      (front.foldl lexicalStep (d.start (s.project.resolve (Path.ofText s.entry))))

theorem entryWithin_ofRoot (hw : d.WellFormed) {root : Path} {entry : String}
    {backend : Option String} (hr : d.at? (resolved d root) ≠ none)
    (he : (Path.ofText entry).isAbsolute = false)
    (hd : ".." ∉ root.parts) (hd' : ".." ∉ (Path.ofText entry).parts) :
    (ofRoot root entry backend).EntryWithin d := by
  have hj : (ofRoot root entry backend).project.resolve (Path.ofText entry) =
      ⟨root.root, root.parts ++ (Path.ofText entry).parts⟩ := Path.join_of_relative he
  have hn : ∀ name ∈ root.parts ++ (Path.ofText entry).parts, name ≠ ".." := by
    rintro name hm rfl
    exact (List.mem_append.mp hm).elim hd hd'
  have hb : resolved d root = d.start root ++ root.parts :=
    (resolved_eq hw root).trans
      (foldl_lexicalStep fun name hm => hn name (List.mem_append_left _ hm))
  refine ⟨hr, fun front hf => ?_⟩
  change front <+: (Build.Project.resolve _ (Path.ofText entry)).parts at hf
  change Nearby (resolved d root) d.here (front.foldl lexicalStep
    (d.start (Build.Project.resolve _ (Path.ofText entry))))
  rw [hj] at hf ⊢
  rw [foldl_lexicalStep fun name hm => hn name (hf.subset hm), hb]
  have hs : d.start ⟨root.root, root.parts ++ (Path.ofText entry).parts⟩ = d.start root := rfl
  rw [hs]
  rcases List.prefix_or_prefix_of_prefix hf (List.prefix_append ..) with h | h
  · exact .inl ((List.prefix_append_right_inj _).mpr h)
  · exact .inr (.inl ((List.prefix_append_right_inj _).mpr h))

theorem AgreeBelow.at?_of_nearby (h : AgreeBelow d₁ d₂ base) (hw₁ : d₁.WellFormed)
    (hw₂ : d₂.WellFormed) (hb : d₁.at? base ≠ none) (hn : Nearby base d₁.here place) :
    d₁.at? place = d₂.at? place := by
  have habove {below : Place} (hp : place <+: below) (h₁ : d₁.at? below ≠ none)
      (he : d₁.at? below = d₂.at? below) : d₁.at? place = d₂.at? place := by
    by_cases hq : place = below
    · rwa [hq]
    · rw [hw₁.directory_of_prefix h₁ hp hq, hw₂.directory_of_prefix (he ▸ h₁) hp hq]
  rcases hn with hp | hp | hp
  · exact habove hp hb (h.at? base (List.prefix_refl _))
  · exact h.at? place hp
  · refine habove hp (by simp [hw₁.here]) ?_
    rw [hw₁.here, h.here, hw₂.here]

theorem AgreeBelow.serveModule_eq (h : AgreeBelow d₁ d₂ (resolved d₁ s.root))
    (hw₁ : d₁.WellFormed) (hw₂ : d₂.WellFormed) (he : s.EntryWithin d₁) :
    s.serveModule d₁ = s.serveModule d₂ := by
  have hr : d₁.readText (s.project.resolve (Path.ofText s.entry)) =
      d₂.readText (s.project.resolve (Path.ofText s.entry)) :=
    readText_congr hw₁ hw₂ h.here fun front hf => h.at?_of_nearby hw₁ hw₂ he.root (he.path front hf)
  have hl : s.project.load d₁ (Path.ofText s.entry) = s.project.load d₂ (Path.ofText s.entry) := by
    rw [Build.Project.load, Build.Project.load, hr]
  unfold serveModule
  rw [hl]

/-! ### Answers -/

theorem handle_indexPage (host : Host) {r : Request} (h : r.path ∈ indexPaths) :
    s.handle d host r = ⟨.ok (.ofText .page (indexPage scriptPath defaultTitle)), s, [], []⟩ := by
  rw [handle]
  exact if_pos (List.contains_iff_mem.mpr h)

theorem handle_file (hb : ∀ address, s.backend = some address → address.isEmpty)
    (host : Host) {r : Request} (hi : r.path ∉ indexPaths) (hs : r.path ≠ scriptPath) :
    s.handle d host r = ⟨s.serveFile host.types d r.path, s, [], []⟩ := by
  have hi : indexPaths.contains r.path = false := by simpa using hi
  rw [handle, hi, if_neg Bool.false_ne_true, if_neg hs]
  split
  · next address ha => rw [if_pos (hb address ha)]
  · rfl

theorem handle_backend {address : String} (hb : s.backend = some address)
    (ha : address.isEmpty = false) (host : Host) {r : Request} (hi : r.path ∉ indexPaths)
    (hs : r.path ≠ scriptPath) : s.handle d host r = s.passOn address host r := by
  have hi : indexPaths.contains r.path = false := by simpa using hi
  rw [handle, hi, if_neg Bool.false_ne_true, if_neg hs, hb]
  dsimp only
  rw [ha, if_neg Bool.false_ne_true]

theorem serve_file_result (hb : ∀ address, s.backend = some address → address.isEmpty)
    (host : Host) {r : Request} (hi : r.path ∉ indexPaths) (hs : r.path ≠ scriptPath) :
    (s.serve d host (.request r)).result =
      (s.serveFile host.types d r.path).map (·.events) := by
  rw [serve, handle_file hb host hi hs]
  dsimp only
  cases s.serveFile host.types d r.path <;> rfl

theorem received_of_serve (hb : ∀ address, s.backend = some address → address.isEmpty)
    (hw : d.WellFormed) {host : Host} {r : Request} {events : List Http.Event}
    {headers : List (String × String)} (hi : r.path ∉ indexPaths) (hs : r.path ≠ scriptPath)
    (hr : (s.serve d host (.request r)).result = .ok events)
    (hm : .started 200 headers ∈ events) :
    resolved d s.root <+: resolved d (s.target r.path) ∧
      d.at? (resolved d (s.target r.path)) = some (.file (Http.received events)) := by
  rw [serve_file_result hb host hi hs] at hr
  cases hf : s.serveFile host.types d r.path with
  | error f =>
    rw [hf] at hr
    cases hr
  | ok response =>
    rw [hf] at hr
    obtain rfl := Except.ok.inj hr
    obtain ⟨bytes, hp, he, rfl⟩ := exists_file_of_serveFile hw hf
      (Http.Response.status_eq_of_mem_events hm)
    exact ⟨hp, (Http.Response.received_events_ofFile _ _ bytes).symm ▸ he⟩

/-- Two disks that agree on the root and what lies below it give the same answers, and a file that
is sent lies there. -/
theorem serve_confined (hb : ∀ address, s.backend = some address → address.isEmpty)
    (hw₁ : d₁.WellFormed) (hw₂ : d₂.WellFormed) (ha : AgreeBelow d₁ d₂ (resolved d₁ s.root))
    (hn : ∀ name ∈ resolved d₁ s.root, name.utf8ByteSize ≤ longestName) :
    (∀ (host : Host) (r : Request), (r.path = scriptPath → s.EntryWithin d₁) →
      s.serve d₁ host (.request r) = s.serve d₂ host (.request r)) ∧
    ∀ (host : Host) (r : Request) events headers, r.path ∉ indexPaths → r.path ≠ scriptPath →
      (s.serve d₁ host (.request r)).result = .ok events → .started 200 headers ∈ events →
      ∃ place bytes, resolved d₁ s.root <+: place ∧ d₁.at? place = some (.file bytes) ∧
        Http.received events = bytes := by
  constructor
  · intro host r he
    have hh : s.handle d₁ host r = s.handle d₂ host r := by
      by_cases hi : r.path ∈ indexPaths
      · rw [handle_indexPage host hi, handle_indexPage host hi]
      · by_cases hs : r.path = scriptPath
        · have hr : r = { r with path := scriptPath } := by rw [← hs]
          rw [hr, handle_scriptPath, handle_scriptPath, ha.serveModule_eq hw₁ hw₂ (he hs)]
        · rw [handle_file hb host hi hs, handle_file hb host hi hs,
            ha.serveFile_eq hw₁ hw₂ hn]
    rw [serve, serve, hh]
  · intro host r events headers hi hs hr hm
    obtain ⟨hp, ha⟩ := received_of_serve hb hw₁ hi hs hr hm
    exact ⟨_, _, hp, ha, rfl⟩

/-- A working directory with a style sheet. -/
def styled : Disk := (Disk.blank ["site"]).put ["site", "a.css"] (.file [0x2A])

/-- The same with other things beside the working directory. -/
def strewn : Disk := (styled.put ["x.opal"] (.file [0xFF])).put ["a"] .directory

theorem styled_wellFormed : styled.WellFormed := .of_entries rfl (by decide)

theorem strewn_wellFormed : strewn.WellFormed := .of_entries rfl (by decide)

theorem agreeBelow_strewn (h : ¬ base <+: ["x.opal"]) (h' : ¬ base <+: ["a"]) :
    AgreeBelow styled strewn base :=
  (agreeBelow_put (by decide) h).trans (agreeBelow_put (by decide) h')

def getRequest (path : String) : Request := ⟨"GET", path, "", [], []⟩

/-- A machine that knows style sheets, and whose calls find nothing. -/
def silent : Host := ⟨[("text/css", [".css"])], fun _ => .ok ⟨404, none, []⟩⟩

/-- A server whose root is the working directory. -/
def homely : Server := ofRoot ⟨.slash, ["site"]⟩ "a.opal" none

theorem serve_confined_homely :
    homely.backend = none ∧ styled.WellFormed ∧ strewn.WellFormed ∧
      AgreeBelow styled strewn (resolved styled homely.root) ∧
      (∀ name ∈ resolved styled homely.root, name.utf8ByteSize ≤ longestName) ∧
      homely.EntryWithin styled ∧
      homely.serve styled silent (.request (getRequest scriptPath)) =
        homely.serve strewn silent (.request (getRequest scriptPath)) ∧
      ∃ events headers place,
        (homely.serve styled silent (.request (getRequest "/a.css"))).result = .ok events ∧
          .started 200 headers ∈ events ∧ resolved styled homely.root <+: place ∧
            styled.at? place = some (.file (Http.received events)) := by
  have ha : AgreeBelow styled strewn (resolved styled homely.root) :=
    agreeBelow_strewn (by decide) (by decide)
  have hn : ∀ name ∈ resolved styled homely.root, name.utf8ByteSize ≤ longestName := by decide
  have he : homely.EntryWithin styled :=
    entryWithin_ofRoot styled_wellFormed (by decide) (by decide) (by decide) (by decide)
  obtain ⟨hs, hf⟩ := serve_confined (s := homely) nofun styled_wellFormed strewn_wellFormed ha hn
  refine ⟨rfl, styled_wellFormed, strewn_wellFormed, ha, hn, he, hs silent _ fun _ => he, ?_⟩
  have hr : (homely.serve styled silent (.request (getRequest "/a.css"))).result =
      .ok (Http.Response.ofFile silent.types ⟨.slash, ["site", "a.css"]⟩ [0x2A]).events := by
    with_unfolding_all rfl
  have hm : .started 200
        (Http.Response.ofFile silent.types ⟨.slash, ["site", "a.css"]⟩ [0x2A]).sentHeaders ∈
      (Http.Response.ofFile silent.types ⟨.slash, ["site", "a.css"]⟩ [0x2A]).events :=
    List.mem_cons_self
  obtain ⟨place, bytes, hp, hb, hreceived⟩ := hf silent (getRequest "/a.css") _ _ (by decide)
    (by decide) hr hm
  exact ⟨_, _, place, hr, hm, hp, hreceived ▸ hb⟩

/-- A server whose entry lies beside its root. -/
def leaning : Server := ofRoot ⟨.slash, ["site"]⟩ "../x.opal" none

/-- A server whose root lies below what may be a file. -/
def perched : Server := ofRoot ⟨.slash, ["x.opal", "r"]⟩ "a.opal" none

def endless : String := String.ofList (List.replicate 256 'x')

/-- A server whose root no disk can hold. -/
def rootless : Server := ofRoot ⟨.slash, ["a", endless]⟩ "a.opal" none

theorem resolved_endless (hw : d.WellFormed) {names : List String}
    (hn : ∀ name ∈ names, name = "a" ∨ name = "f" ∨ name = endless) : resolved d ⟨.slash, names⟩ = names := by
  have he : endless ≠ ".." := by decide +kernel
  rw [resolved_eq hw]
  refine (foldl_lexicalStep fun name hm => ?_).trans (List.nil_append names)
  rcases hn name hm with rfl | rfl | rfl
  · decide
  · decide
  · exact he

theorem any_hasNull_endless : ["a", endless, "f"].any Disk.hasNull = false := by
  have hn (n : Nat) : Disk.hasNull (String.ofList (List.replicate n 'x')) = false := by
    simp [Disk.hasNull]
  have he : Disk.hasNull endless = false := hn 256
  rw [List.any_cons, List.any_cons, he]
  decide

/-- Whether a path below such a root is too much to ask for depends on what is above the root. -/
theorem find?_endless (hw : d.WellFormed) :
    d.find? (pathTo ["a", endless, "f"]) =
      if d.at? ["a"] = some .directory then .error .nameTooLong else .ok none := by
  have hlong : ¬ (pathTo ["a", endless, "f"]).text.utf8ByteSize > Disk.longestPath := by
    decide +kernel
  rw [hw.find?_eq]
  change (if (["a", endless, "f"].any Disk.hasNull) = true then _ else _) = _
  rw [any_hasNull_endless, if_neg Bool.false_ne_true, if_neg hlong]
  refine (Disk.lookFrom_of_directory rfl (by decide) (by decide)).trans ?_
  split_ifs with ha
  · exact Disk.lookFrom_of_tooLong ha (by decide +kernel) (by decide +kernel)
  · exact Disk.lookFrom_of_not_directory ha

theorem serveFile_rootless (hw : d.WellFormed) (types : Http.MediaType.Table) :
    rootless.serveFile types d "/f" =
      if d.at? ["a"] = some .directory then .error (.disk .nameTooLong) else .ok notFound := by
  have ht : rootless.target "/f" = ⟨.slash, ["a", endless, "f"]⟩ := by with_unfolding_all rfl
  have hr : resolved d rootless.root = ["a", endless] := resolved_endless hw (by simp)
  have hp : ["a", endless].isPrefixOf ["a", endless, "f"] = true :=
    List.isPrefixOf_iff_prefix.mpr (List.prefix_append ["a", endless] ["f"])
  rw [serveFile_lexical hw, ht]
  dsimp only
  rw [any_hasNull_endless, if_neg Bool.false_ne_true, resolved_endless hw (by simp), hr, if_pos hp,
    Http.Response.file?, Disk.file?, find?_endless hw]
  split_ifs <;> rfl

/-- A machine that knows no media types. -/
def untyped : Host := { silent with types := [] }

/-- The entry is read outside the root when its path leads there, and also on the way to a root that
is not there; a root that no disk can hold is looked for in the directories above it; and the type
of a file is what the machine knows of its name. -/
theorem not_confined_outside :
    (homely.serve styled silent (.request (getRequest "/a.css"))).result ≠
      (homely.serve styled untyped (.request (getRequest "/a.css"))).result ∧
    (AgreeBelow styled strewn (resolved styled leaning.root) ∧
      (leaning.serve styled silent (.request (getRequest scriptPath))).result ≠
        (leaning.serve strewn silent (.request (getRequest scriptPath))).result) ∧
    (AgreeBelow styled strewn (resolved styled perched.root) ∧
      (perched.serve styled silent (.request (getRequest scriptPath))).result ≠
        (perched.serve strewn silent (.request (getRequest scriptPath))).result) ∧
    (AgreeBelow styled strewn (resolved styled rootless.root) ∧
      (rootless.serve styled silent (.request (getRequest "/f"))).result ≠
        (rootless.serve strewn silent (.request (getRequest "/f"))).result) := by
  refine ⟨?_, ⟨agreeBelow_strewn (by decide) (by decide), ?_⟩,
    ⟨agreeBelow_strewn (by decide) (by decide), ?_⟩, ?_, ?_⟩
  · have hs : (homely.serve styled silent (.request (getRequest "/a.css"))).result =
        .ok (Http.Response.ofFile silent.types ⟨.slash, ["site", "a.css"]⟩ [0x2A]).events := by
      with_unfolding_all rfl
    have hs' : (homely.serve styled untyped (.request (getRequest "/a.css"))).result =
        .ok (Http.Response.ofFile [] ⟨.slash, ["site", "a.css"]⟩ [0x2A]).events := by
      with_unfolding_all rfl
    rw [hs, hs']
    decide
  · obtain ⟨events, hs⟩ : ∃ events,
        (leaning.serve styled silent (.request (getRequest scriptPath))).result = .ok events :=
      ⟨_, by with_unfolding_all rfl⟩
    have hs' : (leaning.serve strewn silent (.request (getRequest scriptPath))).result =
        .error (.build (.disk .undecodable)) := by with_unfolding_all rfl
    rw [hs, hs']
    nofun
  · obtain ⟨events, hs⟩ : ∃ events,
        (perched.serve styled silent (.request (getRequest scriptPath))).result = .ok events :=
      ⟨_, by with_unfolding_all rfl⟩
    have hs' : (perched.serve strewn silent (.request (getRequest scriptPath))).result =
        .error (.build (.disk .notDirectory)) := by with_unfolding_all rfl
    rw [hs, hs']
    nofun
  · rw [show resolved styled rootless.root = ["a", endless] from
      resolved_endless styled_wellFormed (by simp)]
    exact agreeBelow_strewn (fun h => nomatch h.length_le) (fun h => nomatch h.length_le)
  · have hb : ∀ address, rootless.backend = some address → address.isEmpty := nofun
    rw [serve_file_result hb silent (by decide) (by decide),
      serve_file_result hb silent (by decide) (by decide)]
    change Except.map _ (rootless.serveFile silent.types styled "/f") ≠
      Except.map _ (rootless.serveFile silent.types strewn "/f")
    rw [serveFile_rootless styled_wellFormed, serveFile_rootless strewn_wellFormed,
      if_neg (by decide), if_pos (by decide)]
    nofun

end SceneMarkup.Server
