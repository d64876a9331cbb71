import SceneMarkup.Document.Traversal

/-! # Depth

The levels that a traversal meets are those below the depth of the document, and a comparison that
follows as many levels as a document is deep comes to a verdict.
-/

namespace SceneMarkup

namespace Fragment

/-- What holds of a fragment when it holds of its children holds of all fragments. -/
@[elab_as_elim]
theorem induct {P : Fragment → Prop}
    (mk : ∀ name attributes bindings children line column, (∀ child ∈ children, P child) →
      P (mk name attributes bindings children line column)) (f : Fragment) : P f := by
  obtain ⟨name, attributes, bindings, children, line, column⟩ := f
  exact mk _ _ _ _ _ _ fun child h => induct mk child
termination_by sizeOf f
decreasing_by
  have := List.sizeOf_lt_of_mem h
  simp only [Fragment.mk.sizeOf_spec]
  omega

variable {f g : Fragment} {fs gs : List Fragment} {n : Nat}

theorem depth_eq (f : Fragment) : f.depth = 1 + depthAll f.children := by
  cases f
  rw [depth, children]

theorem depthAll_le_iff : depthAll fs ≤ n ↔ ∀ f ∈ fs, f.depth ≤ n := by
  induction fs with
  | nil => simp [depthAll]
  | cons f fs ih => rw [depthAll, Nat.max_le, ih, List.forall_mem_cons]

theorem lt_depthAll_iff : n < depthAll fs ↔ ∃ f ∈ fs, n < f.depth := by
  rw [← Nat.not_le, depthAll_le_iff]
  simp

/-! ### Levels -/

theorem exists_mem_map_level_iff (level : Nat) :
    (∃ e ∈ fs.map (level, ·), n < e.1 + e.2.depth) ↔ ∃ f ∈ fs, n < level + f.depth := by
  constructor
  · rintro ⟨e, he, hn⟩
    obtain ⟨f, hf, rfl⟩ := List.mem_map.mp he
    exact ⟨f, hf, hn⟩
  · rintro ⟨f, hf, hn⟩
    exact ⟨_, List.mem_map.mpr ⟨f, hf, rfl⟩, hn⟩

theorem lt_add_depth_iff (level : Nat) (f : Fragment) :
    n < level + f.depth ↔ n ≤ level ∨ ∃ child ∈ f.children, n < level + 1 + child.depth := by
  have hs (m : Nat) (hl : ¬ n ≤ level) : n < level + 1 + m ↔ n - (level + 1) < m := by omega
  rw [depth_eq, ← Nat.add_assoc]
  by_cases hl : n ≤ level
  · exact iff_of_true (by omega) (.inl hl)
  · rw [hs _ hl, lt_depthAll_iff]
    simp only [hs _ hl, hl, false_or]

theorem exists_mem_visitLevels_iff (visited pending : List (Nat × Fragment)) :
    (∃ e ∈ visitLevels visited pending, n ≤ e.1) ↔
      (∃ e ∈ visited, n ≤ e.1) ∨ ∃ e ∈ pending, n < e.1 + e.2.depth := by
  induction visited, pending using visitLevels.induct with
  | case1 visited => simp [visitLevels]
  | case2 visited level f pending ih =>
    have hd := lt_add_depth_iff (n := n) level f
    rw [visitLevels, ih]
    simp only [List.mem_cons, List.mem_append, or_and_right, exists_or, exists_eq_left,
      exists_mem_map_level_iff, hd, or_assoc, or_left_comm]

/-! ### Comparisons -/

theorem allAlike_eq_false (h : fs.length ≠ gs.length) : allAlike fs gs = false := by
  induction fs generalizing gs with
  | nil => cases gs <;> simp_all [allAlike]
  | cons f fs ih =>
    cases gs with
    | nil => rfl
    | cons g gs =>
      rw [allAlike, ih (by simpa using h), Bool.and_false]

theorem allAlikeWithin?_eq
    (h : ∀ f ∈ fs, ∀ g, alikeWithin? n f g = some (f.alike g)) (hl : fs.length = gs.length) :
    allAlikeWithin? n fs gs = some (allAlike fs gs) := by
  induction fs generalizing gs with
  | nil => cases gs <;> simp_all [allAlikeWithin?, allAlike]
  | cons f fs ih =>
    cases gs with
    | nil => cases hl
    | cons g gs =>
      obtain ⟨hf, hs⟩ := List.forall_mem_cons.mp h
      rw [allAlikeWithin?, allAlike, hf g]
      cases f.alike g with
      | true => exact ih hs (Nat.succ.inj hl)
      | false => rfl

/-- A comparison through as many levels as a fragment is deep has a verdict. -/
theorem alikeWithin?_eq (h : f.depth ≤ n) (g : Fragment) :
    alikeWithin? n f g = some (f.alike g) := by
  induction f using induct generalizing n g with
  | mk name attributes bindings children line column ih =>
    rw [depth] at h
    have hc : ∀ child ∈ children, ∀ g, alikeWithin? (n - 1) child g = some (child.alike g) :=
      fun child hm => ih child hm (depthAll_le_iff.mp (by omega) child hm)
    rw [alikeWithin?, alike, if_neg (by omega)]
    by_cases hl : children.length = g.children.length
    · rw [allAlikeWithin?_eq hc hl, beq_iff_eq.mpr hl, Bool.and_true]
      split
      · next hs => rw [hs, Bool.true_and]
      · next hs => rw [Bool.eq_false_iff.mpr hs, Bool.false_and]
    · rw [allAlike_eq_false hl, beq_eq_false_iff_ne.mpr hl, Bool.and_false,
        if_neg Bool.false_ne_true]

end Fragment

theorem Document.exists_mem_walkLevels_iff (d : Document) (n : Nat) :
    (∃ e ∈ d.walkLevels, n ≤ e.1) ↔ n < Fragment.depthAll d.fragments := by
  rw [walkLevels, Fragment.exists_mem_visitLevels_iff, Fragment.lt_depthAll_iff]
  simp only [Fragment.exists_mem_map_level_iff, List.not_mem_nil, false_and, exists_false, false_or,
    Nat.zero_add]

end SceneMarkup
