import SceneMarkup.Proofs.Disk.Tree
import SceneMarkup.Proofs.Path.Basic
import SceneMarkup.Server.Basic

/-! # Walks by name

Without links, a walk that can be taken leads where its steps lead by name alone, and it takes the
same course on two disks that hold the same in the places that it passes through.
-/

namespace SceneMarkup.Server

open Disk (lookFrom)

variable {d d₁ d₂ : Disk} {p base : Path} {place : Place} {names : List String}

theorem ne_dots_of_mem_foldl (hp : ∀ name ∈ place, name ≠ "..") :
    ∀ name ∈ names.foldl lexicalStep place, name ≠ ".." := by
  induction names generalizing place with
  | nil => exact hp
  | cons name names ih =>
    rw [List.foldl_cons]
    refine ih fun other hm => ?_
    rw [lexicalStep] at hm
    split at hm
    · exact hp other ((List.dropLast_subset place) hm)
    · next hn =>
      rcases List.mem_append.mp hm with hm | hm
      · exact hp other hm
      · exact List.mem_singleton.mp hm ▸ hn

theorem foldl_lexicalStep (hn : ∀ name ∈ names, name ≠ "..") :
    names.foldl lexicalStep place = place ++ names := by
  induction names generalizing place with
  | nil => rw [List.append_nil]; rfl
  | cons name names ih =>
    obtain ⟨hd, hn⟩ := List.forall_mem_cons.mp hn
    rw [List.foldl_cons, lexicalStep, if_neg hd, ih hn, List.append_assoc]
    rfl

theorem eq_of_step {name : String} {place' : Place} (h : d.step place name = .ok place') :
    place' = lexicalStep place name := by
  rw [Disk.step] at h
  rw [lexicalStep]
  split at h
  · split at h
    · next hd => rw [if_pos hd, Except.ok.inj h]
    · next hd =>
      split at h
      · cases h
      · rw [if_neg hd, Except.ok.inj h]
  · cases h
  · cases h

theorem eq_of_foldlM_step {place' : Place} (h : names.foldlM d.step place = .ok place') :
    place' = names.foldl lexicalStep place := by
  induction names generalizing place with
  | nil => exact (Except.ok.inj h).symm
  | cons name names ih =>
    rw [List.foldlM_cons] at h
    cases hs : d.step place name with
    | error f =>
      rw [hs] at h
      cases h
    | ok next =>
      rw [hs] at h
      rw [List.foldl_cons, ← eq_of_step hs]
      exact ih h

/-- Walks through places where two disks hold the same take the same course. -/
theorem foldlM_step_congr
    (h : ∀ front, front <+: names →
      d₁.at? (front.foldl lexicalStep place) = d₂.at? (front.foldl lexicalStep place)) :
    names.foldlM d₁.step place = names.foldlM d₂.step place := by
  induction names generalizing place with
  | nil => rfl
  | cons name names ih =>
    have hs : d₁.step place name = d₂.step place name := by
      rw [Disk.step, Disk.step, show d₁.at? place = d₂.at? place from h [] List.nil_prefix]
    rw [List.foldlM_cons, List.foldlM_cons, hs]
    cases ht : d₂.step place name with
    | error f => rfl
    | ok next =>
      refine ih fun front hf => ?_
      rw [eq_of_step ht]
      exact h (name :: front) (List.cons_prefix_cons.mpr ⟨rfl, hf⟩)

theorem lookFrom_congr
    (h : ∀ front, front <+: names →
      d₁.at? (front.foldl lexicalStep place) = d₂.at? (front.foldl lexicalStep place)) :
    d₁.lookFrom place names = d₂.lookFrom place names := by
  rw [lookFrom, lookFrom, foldlM_step_congr h]
  split
  · next hp => rw [eq_of_foldlM_step hp, h names (List.prefix_refl _)]
  · rfl
  · rfl

/-- Without links, a path is resolved by its names alone. -/
theorem resolved_eq (hw : d.WellFormed) (p : Path) :
    resolved d p = p.parts.foldl lexicalStep (d.start p) := by
  have hr (follow : Place → Place → List String → Place × Bool) (place : Place)
      (names : List String) :
      (resolveWith d follow [] place names).1 = names.foldl lexicalStep place := by
    induction names generalizing place with
    | nil => rfl
    | cons name names ih =>
      rw [resolveWith, List.foldl_cons]
      split
      · next target ha => cases hw.linkless _ _ ha
      · exact ih _
  exact hr _ _ _

theorem isCircular_eq_false (hw : d.WellFormed) (p : Path) : isCircular d p = false := by
  have hs (place : Place) (names : List String) :
      names.foldlM d.step place ≠ .error .tooManyLinks := by
    induction names generalizing place with
    | nil => nofun
    | cons name names ih =>
      rw [List.foldlM_cons]
      have hstep : d.step place name ≠ .error .tooManyLinks := by
        unfold Disk.step
        split
        · split_ifs <;> nofun
        · nofun
        · nofun
      cases h : d.step place name with
      | error f => exact fun he => hstep (h.trans he)
      | ok next => exact ih next
  rw [isCircular, Disk.locate, hw.trace_eq]
  split
  · next h =>
    split_ifs at h
    · cases h
    · cases h
    · exact absurd h (hs _ _)
  · rfl

theorem resolved_join (hw : d.WellFormed) (h : p.isAbsolute = false) :
    resolved d (base.join p) = p.parts.foldl lexicalStep (resolved d base) := by
  rw [resolved_eq hw, resolved_eq hw, Path.join_of_relative h]
  exact List.foldl_append

theorem ne_dots_of_mem_resolved (hw : d.WellFormed) : ∀ name ∈ resolved d p, name ≠ ".." := by
  rw [resolved_eq hw]
  refine ne_dots_of_mem_foldl fun name hm => ?_
  rw [Disk.start] at hm
  split at hm
  · cases hm
  · exact (hw.legal_of_mem (by simp [hw.here]) name hm).ne_dots

/-! ### What a walk finds -/

theorem at?_of_find? (hw : d.WellFormed) {entry : Disk.Entry} (hd : ∀ name ∈ place, name ≠ "..")
    (h : d.find? (pathTo place) = .ok (some entry)) : d.at? place = some entry := by
  rw [hw.find?_eq] at h
  split_ifs at h
  · cases h
  · change d.lookFrom [] place = _ at h
    rw [lookFrom] at h
    split at h
    · next hp =>
      rw [eq_of_foldlM_step hp, foldl_lexicalStep hd, List.nil_append] at h
      exact Except.ok.inj h
    · cases h
    · cases h

theorem eq_of_locate (hw : d.WellFormed) (h : d.locate p = .ok place) :
    place = p.parts.foldl lexicalStep (d.start p) := by
  rw [Disk.locate, hw.trace_eq] at h
  split_ifs at h
  exact eq_of_foldlM_step h

/-- A text is read alike where two disks hold the same all along its path. -/
theorem readText_congr (hw₁ : d₁.WellFormed) (hw₂ : d₂.WellFormed) (hh : d₁.here = d₂.here)
    (h : ∀ front, front <+: p.parts → d₁.at? (front.foldl lexicalStep (d₁.start p)) =
      d₂.at? (front.foldl lexicalStep (d₁.start p))) : d₁.readText p = d₂.readText p := by
  have hl : d₁.locate p = d₂.locate p := by
    have hstart : d₁.start p = d₂.start p := by rw [Disk.start, Disk.start, hh]
    rw [Disk.locate, Disk.locate, hw₁.trace_eq, hw₂.trace_eq, foldlM_step_congr h, hstart]
  have hr : d₁.read p = d₂.read p := by
    rw [Disk.read, Disk.read, ← hl]
    split
    · rfl
    · next place hp =>
      have ha : d₁.at? place = d₂.at? place := by
        rw [eq_of_locate hw₁ hp]
        exact h p.parts (List.prefix_refl _)
      rw [ha]
  rw [Disk.readText, Disk.readText, hr]

end SceneMarkup.Server
