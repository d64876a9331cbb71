import Mathlib.Tactic.TFAE
import SceneMarkup.CommandLine.Job
import SceneMarkup.Proofs.Document.Interchange
import SceneMarkup.Proofs.Document.Printer
import SceneMarkup.Proofs.Http.Percent
import SceneMarkup.Proofs.Module.Layout
import SceneMarkup.Proofs.Server.Framing

/-! # One verdict

A source is read by the commands that parse and check files, by the compiler, by the loads of a
build and by the server. All of them accept the same sources, and what they say about a source that
is refused is one diagnosis. Only the writing of JSON has a limit of its own.
-/

namespace SceneMarkup

variable {source : String} {path : Option String} {document : Document} {d : Diagnosis}

/-! ### Readings -/

namespace Document

theorem parse_ok_of_path (h : parse source path = .ok document) (path' : Option String) :
    parse source path' = .ok document := by
  rw [parse_eq_ok_iff] at h ⊢
  exact h

/-- The path of a source is the only part of its diagnosis that depends on the path. -/
theorem parse_error_of_path (h : parse source path = .error d) (path' : Option String) :
    parse source path' = .error { d with path := path' } := by
  rw [parse_eq_error_iff] at h ⊢
  obtain ⟨f, hr, rfl⟩ := h
  exact ⟨f, hr, rfl⟩

/-- A document has a JSON text when no fragment stands within 126 others. -/
theorem exists_jsonText_iff {room : Room} {indented : Bool} (hc : room.containers = 254)
    (hr : 126 ≤ room.levels) :
    (∃ text, document.jsonText room indented = .ok text) ↔
      ∀ e ∈ document.walkLevels, e.1 < 126 := by
  have hd : (∃ e ∈ document.walkLevels, 126 ≤ e.1) ↔
      ∃ fault, document.jsonText room indented = .error fault :=
    (document.exists_mem_walkLevels_iff 126).trans (exists_jsonText_error_iff hc hr).symm
  constructor
  · rintro ⟨text, ht⟩ e he
    by_contra hn
    obtain ⟨fault, hf⟩ := hd.mp ⟨e, he, by omega⟩
    cases ht.symm.trans hf
  · intro h
    cases ht : document.jsonText room indented with
    | ok text => exact ⟨text, rfl⟩
    | error fault =>
      obtain ⟨e, he, hl⟩ := hd.mpr ⟨fault, ht⟩
      have := h e he
      omega

end Document

/-! ### Builds -/

theorem Module.compile_of_error (h : Document.parse source path = .error d) :
    (Module.compile source path).1 = .error d := by
  obtain ⟨records, hl⟩ := Document.parseLogged_of_parse h
  rw [compile, hl]

theorem Module.exists_compile_iff :
    (∃ m, (compile source path).1 = .ok m) ↔
      ∃ document, Document.parse source path = .ok document := by
  cases hp : Document.parse source path with
  | ok document => exact iff_of_true ⟨_, compile_of_ok hp⟩ ⟨document, rfl⟩
  | error d =>
    rw [compile_of_error hp]
    simp

namespace Build

variable {shown : String}

theorem Outcome.ofSource_of_error (h : Document.parse source path = .error d) :
    Outcome.ofSource shown source = { errors := [.ofDiagnosis { d with path := some shown }] } := by
  rw [Outcome.ofSource, Module.compile_of_error (Document.parse_error_of_path h (some shown))]

theorem Outcome.errors_ofSource_iff (shown : String) :
    (Outcome.ofSource shown source).errors = [] ↔
      ∃ document, Document.parse source path = .ok document := by
  cases hp : Document.parse source path with
  | ok document =>
    rw [Outcome.ofSource, Module.compile_of_ok (Document.parse_ok_of_path hp (some shown))]
    simp
  | error d =>
    rw [Outcome.ofSource_of_error hp]
    simp

theorem Project.Faithful.load_of_readText {project : Project} {known : List (String × String)}
    {disk : Disk} {p : Path} (h : project.Faithful known)
    (hr : disk.readText (project.resolve p) = .ok source)
    (hd : Distinguished (((project.resolve p).text, source) :: known)) :
    (project.load disk p).result =
      .ok (.ofSource (project.displayPath (project.resolve p)) source) := by
  have hk : read? project.root disk p = some ((project.resolve p).text, source) := by
    rw [read?, ← resolve, hr]
    rfl
  obtain ⟨hl, -, -⟩ := h.load disk p (by rwa [hk])
  rw [hl, compileAnew, hr]

end Build

theorem Server.serve_of_refused {s : Server} {disk : Disk} {m : Build.Message}
    (h : (s.project.load disk (Path.ofText s.entry)).result = .ok { errors := [m] })
    (host : Host) (r : Request) :
    ∃ events, (s.serve disk host (.request { r with path := scriptPath })).result = .ok events ∧
      Http.Framed 500 events ∧ Http.received events = Http.bytesOf m.shown := by
  let content : Http.Content := .value (.text m.shown)
  have hm : (s.serveModule disk).result = .ok (.ofContent .plain content 500 [] "") := by
    rw [serveModule, h]
    dsimp only
    rw [if_neg (by simp [Build.Outcome.isOk]), List.map_singleton, String.intercalate_singleton]
  rw [← handle_scriptPath s disk host r] at hm
  refine ⟨_, serve_of_handle hm, Http.Response.framed_ofContent .plain content 500 "", ?_⟩
  rw [Http.Response.received_ofContent]
  rfl

/-! ### Commands -/

namespace CommandLine

variable {disk : Disk} {room : Document.Room} {colors json pretty : Bool} {file : String}

/-- The command that parses a file succeeds when its source is accepted, and written if it is to be
written as JSON. -/
theorem ending_parseJob_iff (hr : disk.readText (Path.ofText file) = .ok source)
    (path : Option String) :
    (parseJob disk colors room file json pretty).ending = .exit 0 ↔
      ∃ document, Document.parse source path = .ok document ∧
        (json = true → ∃ text, document.jsonText room pretty = .ok text) := by
  rw [parseJob, hr]
  dsimp only
  cases hp : Document.parse source path with
  | ok document =>
    obtain ⟨records, hl⟩ :=
      Document.parseLogged_of_parse (Document.parse_ok_of_path hp (some file))
    rw [hl]
    cases json with
    | false => simp
    | true => cases ht : document.jsonText room pretty <;> simp [ht]
  | error d =>
    obtain ⟨records, hl⟩ :=
      Document.parseLogged_of_parse (Document.parse_error_of_path hp (some file))
    rw [hl]
    simp

/-- The command that checks files succeeds with a file whose source is accepted. -/
theorem ending_checkJob_iff (hr : disk.readText (Path.ofText file) = .ok source)
    (path : Option String) :
    (checkJob disk colors [file]).ending = .exit 0 ↔
      ∃ document, Document.parse source path = .ok document := by
  rw [checkJob, checkFiles, checkFile, hr]
  dsimp only
  cases hp : Document.parse source path with
  | ok document =>
    obtain ⟨records, hl⟩ :=
      Document.parseLogged_of_parse (Document.parse_ok_of_path hp (some file))
    rw [hl]
    simp [checkFiles, Except.map]
  | error d =>
    obtain ⟨records, hl⟩ :=
      Document.parseLogged_of_parse (Document.parse_error_of_path hp (some file))
    rw [hl]
    simp [checkFiles, Except.map]

/-- What is made of a source that a file holds, and the file of a server's entry. -/
structure OneVerdict (s : Server) (disk : Disk) (file source : String) : Prop where
  /-- All accept the source, or none does. -/
  accepted : ∀ (path : Option String) (colors pretty : Bool) (room : Document.Room),
    [∃ document, Document.parse source path = .ok document,
      (Command.job disk colors room (.parse file false pretty)).ending = .exit 0,
      (Command.job disk colors room (.check [file])).ending = .exit 0,
      ∃ m, (Module.compile source path).1 = .ok m,
      ∃ o, (s.project.load disk (Path.ofText s.entry)).result = .ok o ∧ o.errors = []].TFAE
  /-- JSON is written of what is accepted, unless it nests too deeply for 254 containers. -/
  written : ∀ (path : Option String) (colors pretty : Bool) (room : Document.Room),
    room.containers = 254 → 126 ≤ room.levels →
    ((Command.job disk colors room (.parse file true pretty)).ending = .exit 0 ↔
      ∃ document, Document.parse source path = .ok document ∧
        ∀ e ∈ document.walkLevels, e.1 < 126)
  /-- What refuses a source is reported by the load and by the server. -/
  reported : ∀ (path : Option String) (d : Diagnosis), Document.parse source path = .error d →
    ∃ m : Build.Message,
      (s.project.load disk (Path.ofText s.entry)).result = .ok { errors := [m] } ∧
      m.reason = some d.reason.code ∧ m.text = d.message ∧ m.line = some d.line ∧
      m.column = some d.column ∧ m.excerpt = d.excerpt ∧
      ∀ host (r : Server.Request), ∃ events,
        (s.serve disk host (.request { r with path := Server.scriptPath })).result = .ok events ∧
        Http.Framed 500 events ∧ Http.received events = Http.bytesOf m.shown

theorem oneVerdict_of_load {s : Server} {shown : String}
    (hr : disk.readText (Path.ofText file) = .ok source)
    (hl : (s.project.load disk (Path.ofText s.entry)).result = .ok (.ofSource shown source)) :
    OneVerdict s disk file source := by
  constructor
  · intro path colors pretty room
    tfae_have 2 ↔ 1 := by
      rw [Command.job, ending_parseJob_iff hr path]
      simp
    tfae_have 3 ↔ 1 := ending_checkJob_iff hr path
    tfae_have 4 ↔ 1 := Module.exists_compile_iff
    tfae_have 5 ↔ 1 := by
      rw [hl, ← Build.Outcome.errors_ofSource_iff shown]
      simp
    tfae_finish
  · intro path colors pretty room hc hl
    rw [Command.job, ending_parseJob_iff hr path]
    simp only [Document.exists_jsonText_iff hc hl, true_implies]
  · intro path d hp
    rw [Build.Outcome.ofSource_of_error hp] at hl
    exact ⟨_, hl, rfl, rfl, rfl, rfl, rfl, Server.serve_of_refused hl⟩

/-- What is said about a diagnosis is the same in a message of a build. All that read a source
accept it or refuse it alike, and what refuses it is what the load and the server report; a document
that nests too deeply is accepted, but not written as JSON. -/
theorem verdicts_agree :
    (∀ (d : Diagnosis) (colors : Bool), (Build.Message.ofDiagnosis d).shown = d.text ∧
      Terminal.messageReport colors (.ofDiagnosis d) = Terminal.diagnosisReport colors d) ∧
    ∀ (s : Server) (disk : Disk) (file : String) (bytes : List UInt8) (cs : List Char)
      (known : List (String × String)),
      let entry := s.project.resolve (Path.ofText s.entry)
      let source := String.ofList (Text.unifyLineEnds [] cs)
      disk.read (Path.ofText file) = .ok bytes → disk.read entry = .ok bytes →
      Text.Utf8.decode? bytes = some cs → s.project.Faithful known →
      Build.Project.Distinguished ((entry.text, source) :: known) →
      OneVerdict s disk file source := by
  constructor
  · intro d colors
    exact ⟨rfl, rfl⟩
  · intro s disk file bytes cs known entry source hf he hc hp hd
    exact oneVerdict_of_load (Disk.readText_of_read hf hc)
      (hp.load_of_readText (Disk.readText_of_read he hc) hd)

/-- A disk with a source that is refused. -/
def unclosed : Disk :=
  (Disk.blank ["work"]).put ["work", "a.opal"] (.file [0x3C, 0x61, 0x3E])

theorem verdicts_agree_unclosed :
    unclosed.read (Path.ofText "a.opal") = .ok [0x3C, 0x61, 0x3E] ∧
      Text.Utf8.decode? [0x3C, 0x61, 0x3E] = some ['<', 'a', '>'] ∧
      OneVerdict (.ofRoot ⟨.slash, ["work"]⟩ "a.opal" none) unclosed "a.opal" "<a>" := by
  let s : Server := .ofRoot ⟨.slash, ["work"]⟩ "a.opal" none
  have hf : unclosed.read (Path.ofText "a.opal") = .ok [0x3C, 0x61, 0x3E] := by
    with_unfolding_all rfl
  have hs : s.project.resolve (Path.ofText s.entry) = ⟨.slash, ["work", "a.opal"]⟩ := by decide
  have he : unclosed.read (s.project.resolve (Path.ofText s.entry)) = .ok [0x3C, 0x61, 0x3E] := by
    rw [hs]
    rfl
  have hc : Text.Utf8.decode? [0x3C, 0x61, 0x3E] = some ['<', 'a', '>'] := by decide
  have hp : s.project.Faithful [] := Build.Project.faithful_ofRoot (by decide) _
  have ht : String.ofList (Text.unifyLineEnds [] ['<', 'a', '>']) = "<a>" := by decide
  refine ⟨hf, hc, ?_⟩
  rw [← ht]
  apply verdicts_agree.2 s unclosed "a.opal" _ _ [] hf he hc hp
  simp [Build.Project.Distinguished]

end CommandLine

/-! ### A document that nests too deeply -/

namespace Fragment

variable {f : Fragment} {fs : List Fragment} {n : Nat}

theorem depthAll_map {g : Fragment → Fragment} (h : ∀ f ∈ fs, (g f).depth = f.depth) :
    depthAll (fs.map g) = depthAll fs := by
  induction fs with
  | nil => rfl
  | cons f fs ih =>
    obtain ⟨hf, hs⟩ := List.forall_mem_cons.mp h
    rw [List.map_cons, depthAll, depthAll, hf, ih hs]

theorem depth_unplaced (f : Fragment) : f.unplaced.depth = f.depth := by
  induction f using induct with
  | mk name attributes bindings children line column ih =>
    rw [unplaced_mk, depth, depth, depthAll_map ih]

def nested : Nat → Fragment
  | 0 => .mk "a" [] [] [] 0 0
  | n + 1 => .mk "a" [] [] [nested n] 0 0

theorem depth_nested (n : Nat) : (nested n).depth = n + 1 := by
  induction n with
  | zero => rfl
  | succ n ih =>
    rw [nested, depth, depthAll, depthAll, ih]
    omega

theorem wellFormed_nested (n : Nat) : (nested n).WellFormed := by
  induction n with
  | zero => exact wellFormed_plain (by simp) 0 0
  | succ n ih => exact wellFormed_plain (by simpa using ih) 0 0

theorem mem_printed_nested {c : Char} (h : c ∈ (nested n).printed) : c ∈ ['<', 'a', '/', '>'] := by
  have hh : Item.headPrinted "a" (Item.ofMaps [] []) = ['<', 'a'] := by decide
  have ha : "a".toList = ['a'] := by decide
  induction n with
  | zero =>
    rw [nested, printed, hh] at h
    simpa using h
  | succ n ih =>
    rw [nested, printed, hh, allPrinted, ha] at h
    simp only [List.mem_append, List.mem_cons, List.not_mem_nil, or_false] at h ih ⊢
    tauto

end Fragment

theorem Document.depthAll_of_unplaced {d d' : Document} (h : d'.unplaced = d.unplaced) :
    Fragment.depthAll d'.fragments = Fragment.depthAll d.fragments := by
  have hf : d'.fragments.map Fragment.unplaced = d.fragments.map Fragment.unplaced :=
    congrArg fragments h
  have hu (f : Fragment) := f.depth_unplaced
  rw [← Fragment.depthAll_map fun f _ => hu f, hf, Fragment.depthAll_map fun f _ => hu f]

namespace CommandLine

/-- A document with a fragment within 126 others. -/
def deep : Document := ⟨[], [Fragment.nested 126]⟩

def deepBytes : List UInt8 := deep.printed.toList.map fun c => UInt8.ofNat c.toNat

def deepDisk : Disk := (Disk.blank ["work"]).put ["work", "deep.opal"] (.file deepBytes)

theorem depthAll_deep : Fragment.depthAll deep.fragments = 127 := by
  rw [deep, Fragment.depthAll, Fragment.depthAll, Fragment.depth_nested]
  omega

theorem readText_deepDisk : deepDisk.readText (Path.ofText "deep.opal") = .ok deep.printed := by
  have hp : Path.ofText "deep.opal" = ⟨.relative, ["deep.opal"]⟩ := by decide
  have hc : ∀ c ∈ deep.printed.toList, c.toNat < 128 ∧ c ≠ '\r' := by
    intro c hm
    have ha : c ∈ ['<', 'a', '/', '>'] := by
      apply Fragment.mem_printed_nested (n := 126)
      simpa [Document.printed, deep] using hm
    simp only [List.mem_cons, List.not_mem_nil, or_false] at ha
    rcases ha with rfl | rfl | rfl | rfl <;> decide
  have hr : deepDisk.read ⟨.relative, ["deep.opal"]⟩ = .ok deepBytes := rfl
  rw [hp, Disk.readText_ascii hc hr]

/-- A document that nests too deeply is accepted, but the command that writes it as JSON fails. -/
theorem not_verdicts_agree_deep :
    deepDisk.readText (Path.ofText "deep.opal") = .ok deep.printed ∧
      (∀ path, ∃ document, Document.parse deep.printed path = .ok document) ∧
      ∀ colors pretty room, room.containers = 254 →
        (Command.job deepDisk colors room (.parse "deep.opal" true pretty)).ending ≠ .exit 0 := by
  have hw : deep.WellFormed := ⟨nofun, by simpa [deep] using Fragment.wellFormed_nested 126⟩
  have hp (path : Option String) := Document.parse_of_derives hw.derives path
  refine ⟨readText_deepDisk, ?_, ?_⟩
  · intro path
    obtain ⟨document, ho, -⟩ := hp path
    exact ⟨document, ho⟩
  · intro colors pretty room hc he
    rw [Command.job, ending_parseJob_iff readText_deepDisk none] at he
    obtain ⟨document, ho, hj⟩ := he
    obtain ⟨text, ht⟩ := hj rfl
    obtain ⟨document', ho', hu⟩ := hp none
    obtain rfl := Except.ok.inj (ho.symm.trans ho')
    have hd : Fragment.depthAll document.fragments = 127 :=
      (Document.depthAll_of_unplaced hu).trans depthAll_deep
    have hl : 126 < Fragment.depthAll document.fragments := by omega
    obtain ⟨fault, hf⟩ := Document.exists_jsonText_error_of_lt hc hl pretty
    cases ht.symm.trans hf

end CommandLine

end SceneMarkup
