import Mathlib.Tactic.TFAE
import SceneMarkup.Proofs.Build.Output
import SceneMarkup.Proofs.Path.Basic

/-! # Display paths

The path shown for a file leads back to it, wherever the root and the path start. Messages and the
record of a build show a path that was taken relative to the root before: it is the path shown for
the file just where taking it so again changes nothing.
-/

namespace SceneMarkup

theorem Module.path_of_compile {source : String} {path : Option String} {d : Diagnosis}
    (h : (compile source path).1 = .error d) : d.path = path := by
  unfold compile Document.parseLogged at h
  cases hr : Document.read source.toList with
  | ok r =>
    rw [hr] at h
    cases h
  | error f =>
    rw [hr] at h
    obtain rfl := Except.error.inj h
    rfl

namespace Build.Project

open SceneMarkup.Path (Anchored)

variable {project : Project} {disk : Disk} {p entry outfile : Path} {o : Outcome}
  {source shown : String} {resolved : Path}

/-! ### The path shown for a file -/

theorem displayPath_of_relative (h : p.isAbsolute = false) : project.displayPath p = p.text := by
  rw [displayPath, resolve, Path.below?_join h, Option.getD_some]

/-- The path shown for a file leads to the file. -/
theorem resolve_displayPath (h : p.Normal) :
    project.resolve (Path.ofText (project.displayPath p)) = project.resolve p := by
  cases hp : p.isAbsolute with
  | false => rw [displayPath_of_relative hp, Path.ofText_text h]
  | true =>
    have hr : project.resolve p = p := Path.join_of_absolute hp
    rw [displayPath, hr]
    cases hb : p.below? project.root with
    | none => rw [Option.getD_none, Path.ofText_text h, hr]
    | some q =>
      rw [Option.getD_some, Path.ofText_text (h.of_below? hb)]
      exact Path.join_of_below? hb

/-- Shown is where a path leads, so the path is shown differently when it leads elsewhere. -/
theorem displayPath_resolve_iff (hr : project.root.Normal) (hp : p.Normal) :
    project.displayPath (project.resolve p) = project.displayPath p ↔
      project.resolve (project.resolve p) = project.resolve p := by
  constructor
  · intro h
    have hn : (project.resolve p).Normal := hr.join hp
    calc project.resolve (project.resolve p)
        = project.resolve (Path.ofText (project.displayPath (project.resolve p))) :=
          (resolve_displayPath hn).symm
      _ = project.resolve (Path.ofText (project.displayPath p)) := by rw [h]
      _ = project.resolve p := resolve_displayPath hp
  · intro h
    rw [displayPath, h, ← displayPath]

/-! ### What loads and builds show -/

theorem path_of_loadSource (h : (project.loadSource resolved shown source).result = .ok o) :
    ∀ m ∈ o.errors ++ o.warnings, m.path = some shown := by
  cases hp : project.cache.peek? (.ofSource resolved.text source) with
  | some m =>
    rw [loadSource_of_hit hp] at h
    obtain rfl := Except.ok.inj h
    nofun
  | none =>
    rcases hc : Module.compile source (some shown) with ⟨d | m, records⟩
    · rw [loadSource_of_refused hp hc] at h
      obtain rfl := Except.ok.inj h
      rintro m hm
      obtain rfl := List.mem_singleton.mp hm
      exact Module.path_of_compile (congrArg Prod.fst hc)
    · cases hs : project.cache.set? (.ofSource resolved.text source) m with
      | some cache =>
        rw [loadSource_of_compiled hp hc hs] at h
        obtain rfl := Except.ok.inj h
        nofun
      | none =>
        rw [loadSource_of_full hp hc hs] at h
        cases h

theorem path_of_load (h : (project.load disk p).result = .ok o) :
    ∀ m ∈ o.errors ++ o.warnings,
      m.path = some (project.displayPath (project.resolve p)) := by
  unfold Project.load at h
  dsimp only at h
  split at h
  · exact path_of_loadSource h
  · obtain rfl := Except.ok.inj h
    rintro m hm
    obtain rfl := List.mem_singleton.mp hm
    rfl
  · cases h

theorem records_build (h : (project.build disk entry outfile).1.result = .ok o)
    (he : o.errors = []) : (project.build disk entry outfile).1.records =
      (project.load disk entry).records ++
        [builtRecord (project.displayPath entry)
          (project.displayPath (project.resolve outfile))] := by
  have hp : (project.load disk entry).project.resolve outfile = project.resolve outfile :=
    congrArg (Path.join · outfile) root_load
  have hok : ∃ o', (project.load disk entry).result = .ok o' ∧ o'.errors = [] := by
    by_contra hn
    have hb := build_of_not_ok outfile fun o' ho' he' => hn ⟨o', ho', he'⟩
    rw [hb] at h
    exact hn ⟨o, h, he⟩
  obtain ⟨o', hl, he'⟩ := hok
  have ho : o'.isOk = true := List.isEmpty_iff.mpr he'
  unfold build at h ⊢
  simp only [hl, ho, hp, if_true] at h ⊢
  rcases hw : disk.writeBelow (project.resolve outfile)
    (Text.Utf8.encode (o'.contents.getD "").toList) with ⟨f | _, disk'⟩
  · rw [hw] at h
    cases h
  · rfl

/-- The path shown for a file leads back to it. Messages of a load and the record of a build show
the path that the resolved path would be shown by. That is the path shown for the file exactly when
resolving a path that is resolved changes nothing, as it does with a relative path below a relative
root that is not empty. -/
theorem displayPath_identifies (hr : project.root.Normal) (hp : p.Normal) :
    project.resolve (Path.ofText (project.displayPath p)) = project.resolve p ∧
    [Anchored project.root p,
      project.resolve (project.resolve p) = project.resolve p,
      project.displayPath (project.resolve p) = project.displayPath p].TFAE ∧
    (∀ disk o, (project.load disk p).result = .ok o → ∀ m ∈ o.errors ++ o.warnings,
      m.path = some (project.displayPath (project.resolve p))) ∧
    ∀ disk entry o, (project.build disk entry p).1.result = .ok o → o.errors = [] → ∃ record,
      (project.build disk entry p).1.records = (project.load disk entry).records ++ [record] ∧
      record.message = "Build complete" ∧
      record.context.get? "outfile" = some (.text (project.displayPath (project.resolve p))) := by
  refine ⟨resolve_displayPath hp, ?_, ?_, ?_⟩
  · tfae_have 2 ↔ 1 := Path.join_join_iff
    tfae_have 3 ↔ 2 := displayPath_resolve_iff hr hp
    tfae_finish
  · intro disk o h
    exact path_of_load h
  · intro disk entry o h he
    exact ⟨_, records_build h he, rfl, rfl⟩

/-- A file below an absolute root is shown by its path from there, double dots kept. -/
theorem displayPath_identifies_below :
    let project := ofRoot (Path.ofText "/work") 64
    let p := Path.ofText "/work/src//../a.opal"
    project.root.Normal ∧ p.Normal ∧ Anchored project.root p ∧
      project.resolve (Path.ofText "src/../a.opal") = project.resolve p ∧
      ∃ o m, (project.load (Disk.blank ["work"]) p).result = .ok o ∧ m ∈ o.errors ∧
        m.path = some "src/../a.opal" := by
  intro project p
  have hr : project.root.Normal := Path.normal_ofText "/work"
  have hp : p.Normal := Path.normal_ofText "/work/src//../a.opal"
  have hs : project.displayPath p = "src/../a.opal" := by decide
  have ha : Anchored project.root p := Or.inl (by decide)
  have hl : (project.load (Disk.blank ["work"]) p).result =
      .ok { errors := [absentMessage (project.displayPath (project.resolve p))] } := rfl
  obtain ⟨hb, ht, hm, -⟩ := displayPath_identifies hr hp
  have hd : project.displayPath (project.resolve p) = project.displayPath p := (ht.out 0 2).mp ha
  refine ⟨hr, hp, ha, hs ▸ hb, _, _, hl, List.mem_singleton_self _, ?_⟩
  rw [hm _ _ hl _ (by simp), hd, hs]

/-- Below a relative root the path of a message is taken relative to the root twice. -/
theorem not_displayPath_identifies :
    let project := ofRoot (Path.ofText "proj") 64
    let p := Path.ofText "a.opal"
    project.resolve (project.resolve p) ≠ project.resolve p ∧
      ∃ o m, (project.load (Disk.blank ["work"]) p).result = .ok o ∧ m ∈ o.errors ∧
        project.displayPath p = "a.opal" ∧ m.path = some "proj/a.opal" := by
  intro project p
  refine ⟨by decide, _, absentMessage "proj/a.opal", rfl, ?_, by decide, rfl⟩
  exact List.mem_singleton_self _

end Build.Project

end SceneMarkup
