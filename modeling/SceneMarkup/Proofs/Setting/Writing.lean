import SceneMarkup.Proofs.Setting.Nesting

/-! # What a write leaves alone

A write to a path changes nothing that another path leads to, unless one of the two paths runs into
the other. Into a table without entries it puts its value alone.
-/

namespace SceneMarkup.Setting

/-- Neither path is a front part of the other. -/
def Apart (path other : List String) : Prop := ¬ path <+: other ∧ ¬ other <+: path

variable {p q : String} {path other : List String} {t t' v : Value}

theorem distinct_of_keyed (h : Value.Keyed v) : Distinct v := by
  intro path es he
  induction path generalizing v with
  | nil =>
    obtain rfl := Option.some.inj ((find?_nil v).symm.trans he)
    exact h.nodup
  | cons p ps ih =>
    rcases table_or_ne v with ⟨bs, rfl⟩ | hne
    · obtain ⟨w, hw, he⟩ := Option.bind_eq_some_iff.mp (find?_cons_table bs p ps ▸ he)
      exact ih (h.get? hw) he
    · rw [find?_cons_of_ne hne] at he
      cases he

theorem Apart.symm (h : Apart path other) : Apart other path := ⟨h.2, h.1⟩

theorem not_apart_nil : ¬ Apart [] other := fun h => h.1 List.nil_prefix

theorem apart_cons_iff : Apart (p :: path) (q :: other) ↔ (p = q → Apart path other) := by
  by_cases h : p = q
  · subst h
    simp [Apart, List.cons_prefix_cons]
  · simp [Apart, List.cons_prefix_cons, h, Ne.symm h]

theorem find?_assign_of_apart (h : assign v path t = .ok t') (ha : Apart path other) :
    find? other t' = find? other t := by
  induction path generalizing t t' other with
  | nil => exact absurd ha not_apart_nil
  | cons p ps ih =>
    cases other with
    | nil => exact absurd ha.symm not_apart_nil
    | cons q qs =>
      obtain ⟨es, inner, rfl, hi, rfl⟩ := assign_cons_ok h
      rw [find?_cons_table, find?_cons_table, Entries.get?_put]
      by_cases hp : p = q
      · have hf := ih hi (apart_cons_iff.mp ha hp)
        subst hp
        rw [if_pos rfl, Option.bind_some, hf]
        cases Entries.get? es p with
        | some w => rfl
        | none =>
          -- The write creates the table here, and nothing stands in it.
          have hne : qs ≠ [] := by
            rintro rfl
            exact not_apart_nil (apart_cons_iff.mp ha rfl).symm
          obtain ⟨r, rs, rfl⟩ := List.exists_cons_of_ne_nil hne
          rfl
      · rw [if_neg hp]

theorem blocks_assign_of_apart (h : assign v path t = .ok t') (ha : Apart path other) :
    Blocks t' other ↔ Blocks t other := by
  induction path generalizing t t' other with
  | nil => exact absurd ha not_apart_nil
  | cons p ps ih =>
    cases other with
    | nil => exact absurd ha.symm not_apart_nil
    | cons q qs =>
      obtain ⟨es, inner, rfl, hi, rfl⟩ := assign_cons_ok h
      rw [blocks_cons_table, blocks_cons_table, Entries.get?_put]
      by_cases hp : p = q
      · have hb := ih hi (apart_cons_iff.mp ha hp)
        subst hp
        rw [if_pos rfl]
        cases hg : Entries.get? es p with
        | some w =>
          rw [hg, Option.getD_some] at hb
          simpa using hb
        | none =>
          rw [hg, Option.getD_none] at hb
          simpa using mt hb.mp (not_blocks_table_nil qs)
      · rw [if_neg hp]

/-! ### Writes to a table without entries -/

theorem assign_table_nil (v : Value) {path : List String} (hp : path ≠ []) :
    assign v path (.table []) = .ok (spread path v) := by
  induction path with
  | nil => exact absurd rfl hp
  | cons p ps ih =>
    rw [assign_cons_table]
    cases ps with
    | nil => rfl
    | cons q ps =>
      have hi := ih (List.cons_ne_nil q ps)
      rw [show Entries.get? ([] : Entries Value) p = none from rfl, Option.getD_none, hi]
      rfl

theorem levels_spread (path : List String) (v : Value) :
    (spread path v).levels = path.length + v.levels := by
  induction path with
  | nil => rw [spread, List.length_nil, Nat.zero_add]
  | cons p ps ih =>
    have hl := Value.levels_pos v
    simp only [spread, Value.levels, Value.levelsOfEntries, ih, List.length_cons]
    omega

end SceneMarkup.Setting
