import SceneMarkup.Text.Lines

/-! # Splitting

A list is cut at every separator: what is put together with separators between is taken apart
again, and the pieces with a separator each are as long as the list with one more.
-/

namespace SceneMarkup.Text

variable {α : Type} {p : α → Bool} {x : α} {xs ys : List α} {pieces : List (List α)}

theorem splitOnP_ne_nil (p : α → Bool) (xs : List α) : splitOnP p xs ≠ [] := by
  cases xs with
  | nil => simp [splitOnP]
  | cons x xs =>
    rw [splitOnP, List.foldr_cons]
    split
    · simp
    · split <;> simp

theorem splitOnP_cons_of_pos (h : p x) : splitOnP p (x :: xs) = [] :: splitOnP p xs := if_pos h

theorem splitOnP_cons_of_neg (h : p x = false) (xs : List α) : ∃ piece pieces,
    splitOnP p xs = piece :: pieces ∧ splitOnP p (x :: xs) = (x :: piece) :: pieces := by
  obtain ⟨piece, pieces, hs⟩ := List.exists_cons_of_ne_nil (splitOnP_ne_nil p xs)
  refine ⟨piece, pieces, hs, ?_⟩
  rw [splitOnP] at hs ⊢
  rw [List.foldr_cons, if_neg (by simp [h]), hs]

theorem splitOnP_append_cons (h : ∀ y ∈ xs, p y = false) (hx : p x) :
    splitOnP p (xs ++ x :: ys) = xs :: splitOnP p ys := by
  induction xs with
  | nil => exact splitOnP_cons_of_pos hx
  | cons y xs ih =>
    obtain ⟨hy, hs⟩ := List.forall_mem_cons.mp h
    obtain ⟨piece, pieces, hp, hc⟩ := splitOnP_cons_of_neg hy (xs ++ x :: ys)
    obtain ⟨rfl, rfl⟩ := List.cons.inj (hp.symm.trans (ih hs))
    exact hc

theorem splitOnP_of_forall (h : ∀ y ∈ xs, p y = false) : splitOnP p xs = [xs] := by
  induction xs with
  | nil => rfl
  | cons y xs ih =>
    obtain ⟨hy, hs⟩ := List.forall_mem_cons.mp h
    obtain ⟨piece, pieces, hp, hc⟩ := splitOnP_cons_of_neg hy xs
    obtain ⟨rfl, rfl⟩ := List.cons.inj (hp.symm.trans (ih hs))
    exact hc

theorem flatten_splitOnP (p : α → Bool) (xs : List α) :
    (splitOnP p xs).flatten = xs.filter fun x => !p x := by
  induction xs with
  | nil => rfl
  | cons x xs ih =>
    cases hx : p x with
    | true =>
      rw [splitOnP_cons_of_pos hx, List.flatten_cons, ih, List.filter_cons_of_neg (by simp [hx]),
        List.nil_append]
    | false =>
      obtain ⟨piece, pieces, hp, hc⟩ := splitOnP_cons_of_neg hx xs
      rw [hp, List.flatten_cons] at ih
      rw [hc, List.flatten_cons, List.cons_append, ih, List.filter_cons_of_pos (by simp [hx])]

theorem exists_mem_splitOnP_iff : (∃ piece ∈ splitOnP p xs, x ∈ piece) ↔ x ∈ xs ∧ p x = false := by
  rw [← List.mem_flatten, flatten_splitOnP, List.mem_filter, Bool.not_eq_true']

/-- Pieces without separators that are put together with one between are taken apart again. -/
theorem splitOnP_intercalate (hp : pieces ≠ []) (h : ∀ piece ∈ pieces, ∀ y ∈ piece, p y = false)
    (hx : p x) : splitOnP p ([x].intercalate pieces) = pieces := by
  induction pieces with
  | nil => exact absurd rfl hp
  | cons piece pieces ih =>
    obtain ⟨hf, hs⟩ := List.forall_mem_cons.mp h
    cases pieces with
    | nil => rw [List.intercalate_singleton, splitOnP_of_forall hf]
    | cons next pieces =>
      rw [List.intercalate_cons_cons, List.append_assoc, List.singleton_append,
        splitOnP_append_cons hf hx, ih (by simp) hs]

/-! ### Lines -/

theorem eq_false_of_not_mem_lineFeed {cs : List Char} (h : '\n' ∉ cs) :
    ∀ c ∈ cs, (c == '\n') = false := by
  intro c hc
  rw [beq_eq_false_iff_ne]
  rintro rfl
  exact h hc

theorem lines_append_cons {cs ds : List Char} (h : '\n' ∉ cs) :
    lines (cs ++ '\n' :: ds) = cs :: lines ds :=
  splitOnP_append_cons (eq_false_of_not_mem_lineFeed h) rfl

theorem lines_of_not_mem {cs : List Char} (h : '\n' ∉ cs) : lines cs = [cs] :=
  splitOnP_of_forall (eq_false_of_not_mem_lineFeed h)

theorem lines_join {rows : List (List Char)} (hr : rows ≠ []) (h : ∀ row ∈ rows, '\n' ∉ row) :
    lines (join ['\n'] rows) = rows :=
  splitOnP_intercalate hr (fun row hm => eq_false_of_not_mem_lineFeed (h row hm)) rfl

/-! ### Lengths -/

/-- How many elements pieces have, with a separator each. -/
def extent : List (List α) → Nat
  | [] => 0
  | piece :: pieces => piece.length + 1 + extent pieces

theorem extent_append (pieces others : List (List α)) :
    extent (pieces ++ others) = extent pieces + extent others := by
  induction pieces with
  | nil => rw [List.nil_append, extent, Nat.zero_add]
  | cons piece pieces ih =>
    rw [List.cons_append, extent, extent, ih]
    omega

theorem extent_concat (pieces : List (List α)) (piece : List α) :
    extent (pieces ++ [piece]) = extent pieces + piece.length + 1 := by
  rw [extent_append, extent, extent, Nat.add_zero, Nat.add_assoc]

theorem extent_le_of_sublist {others : List (List α)} (h : pieces.Sublist others) :
    extent pieces ≤ extent others := by
  induction h with
  | slnil => exact Nat.le_refl _
  | cons piece _ ih => exact Nat.le_trans ih (Nat.le_add_left ..)
  | cons_cons piece _ ih => exact Nat.add_le_add_left ih _

theorem length_intercalate (x : α) (hp : pieces ≠ []) :
    ([x].intercalate pieces).length + 1 = extent pieces := by
  induction pieces with
  | nil => exact absurd rfl hp
  | cons piece pieces ih =>
    cases pieces with
    | nil => rw [List.intercalate_singleton, extent, extent]
    | cons next pieces =>
      rw [extent, ← ih (by simp), List.intercalate_cons_cons]
      simp only [List.length_append, List.length_singleton]
      omega

theorem extent_splitOnP (p : α → Bool) (xs : List α) : extent (splitOnP p xs) = xs.length + 1 := by
  induction xs with
  | nil => rfl
  | cons x xs ih =>
    cases hx : p x with
    | true =>
      rw [splitOnP_cons_of_pos hx, extent, ih, List.length_nil, List.length_cons]
      omega
    | false =>
      obtain ⟨piece, pieces, hp, hc⟩ := splitOnP_cons_of_neg hx xs
      rw [hp, extent] at ih
      rw [hc, extent, List.length_cons, List.length_cons]
      omega

end SceneMarkup.Text
