import SceneMarkup.Proofs.Build.Loading
import SceneMarkup.Server.Basic

/-! # The compiled entry

The server answers with the module of its entry, or with what is wrong with the entry, as far as
the entry can be read at all: a load turns a missing file and a refused source into messages, but
passes on that an entry is a directory or that its bytes are no text.
-/

namespace SceneMarkup.Server

variable {s : Server} {root : Path} {disk : Disk}

theorem serveModule_of_ok {o : Build.Outcome}
    (h : (s.project.load disk (Path.ofText s.entry)).result = .ok o) :
    ∃ response, (s.serveModule disk).result = .ok response ∧
      response.status = if o.isOk then 200 else 500 := by
  unfold serveModule
  dsimp only
  rw [h]
  refine ⟨_, rfl, ?_⟩
  split <;> rfl

theorem serveModule_of_error {f : Build.Fault}
    (h : (s.project.load disk (Path.ofText s.entry)).result = .error f) :
    (s.serveModule disk).result = .error (.build f) := by
  unfold serveModule
  dsimp only
  rw [h]

theorem handle_scriptPath (s : Server) (disk : Disk) (host : Host) (r : Request) :
    s.handle disk host { r with path := scriptPath } = s.serveModule disk := by
  have hi : indexPaths.contains scriptPath = false := by decide
  rw [handle, hi]
  rfl

/-- A load has code or errors exactly when reading the file gives a text or finds none, and the
server answers a request for its module with status 200 or 500 in the same case. -/
theorem answers_module_iff (root : Path) (disk : Disk) :
    (∀ p, (∃ o, ((Build.Project.ofRoot root Build.defaultCapacity).load disk p).result = .ok o ∧
        o.Settled) ↔ disk.TextOrAbsent (root.join p)) ∧
    ∀ entry backend host (r : Request), (∃ response,
        ((ofRoot root entry backend).handle disk host { r with path := scriptPath }).result =
          .ok response ∧ (response.status = 200 ∨ response.status = 500)) ↔
      disk.TextOrAbsent (root.join (Path.ofText entry)) := by
  let project := Build.Project.ofRoot root Build.defaultCapacity
  have hl (p : Path) : (project.load disk p).result = project.compileAnew disk p :=
    Build.Project.load_ofRoot (by decide) root disk p
  have hi (p : Path) : (∃ o, project.compileAnew disk p = .ok o) ↔
      disk.TextOrAbsent (root.join p) := Build.Project.exists_compileAnew_iff
  constructor
  · intro p
    rw [← hi, hl]
    exact exists_congr fun o => and_iff_left_of_imp Build.Project.settled_of_compileAnew
  · intro entry backend host r
    rw [handle_scriptPath, ← hi]
    constructor
    · rintro ⟨response, hs, -⟩
      cases hr : project.compileAnew disk (Path.ofText entry) with
      | ok o => exact ⟨o, rfl⟩
      | error f =>
        have he := serveModule_of_error (s := ofRoot root entry backend) ((hl _).trans hr)
        cases he.symm.trans hs
    · rintro ⟨o, ho⟩
      obtain ⟨response, hs, hr⟩ :=
        serveModule_of_ok (s := ofRoot root entry backend) ((hl _).trans ho)
      refine ⟨response, hs, ?_⟩
      rw [hr]
      split
      · exact .inl rfl
      · exact .inr rfl

/-- A disk with a directory in the place of a source. -/
def obstructed : Disk := (Disk.blank ["work"]).put ["work", "a.opal"] .directory

/-- A directory in the place of the entry is a fault and not a message. -/
theorem not_answers_obstructed :
    (¬ ∃ o, ((Build.Project.ofRoot ⟨.slash, ["work"]⟩ Build.defaultCapacity).load obstructed
        ⟨.relative, ["a.opal"]⟩).result = .ok o ∧ o.Settled) ∧
    ∀ host (r : Request), ((ofRoot ⟨.slash, ["work"]⟩ "a.opal" none).handle obstructed host
        { r with path := scriptPath }).result = .error (.build (.disk .isDirectory)) := by
  have hl : ((Build.Project.ofRoot ⟨.slash, ["work"]⟩ Build.defaultCapacity).load obstructed
      ⟨.relative, ["a.opal"]⟩).result = .error (.disk .isDirectory) := rfl
  constructor
  · rintro ⟨o, ho, -⟩
    cases hl.symm.trans ho
  · intro host r
    rw [handle_scriptPath]
    exact serveModule_of_error hl

end SceneMarkup.Server
