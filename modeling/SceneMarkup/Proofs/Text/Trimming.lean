import Mathlib.Data.List.DropRight
import SceneMarkup.Text.Lines

/-! # Trimming

What is taken off the ends of a list stands in front of its first element, or behind its last one,
that stays.
-/

namespace SceneMarkup.Text

variable {α β : Type} {p : α → Bool} {x : α} {xs front back : List α}

theorem isBlank_eq_false {c : Char} (h : 0x20 < c.toNat) (h' : c.toNat < 0x85) :
    isBlank c = false := by
  simp only [isBlank, Bool.or_eq_false_iff, Bool.and_eq_false_iff, decide_eq_false_iff_not,
    beq_eq_false_iff_ne]
  omega

theorem dropWhileEnd_eq_rdropWhile (p : α → Bool) (xs : List α) :
    dropWhileEnd p xs = xs.rdropWhile p := rfl

theorem dropWhileEnd_cons_of_neg (h : p x = false) (xs : List α) :
    dropWhileEnd p (x :: xs) = x :: dropWhileEnd p xs := by
  have hx : ¬ p x := by simp [h]
  rw [dropWhileEnd, List.reverse_cons, List.dropWhile_append]
  split
  · next hn =>
    rw [List.isEmpty_iff] at hn
    simp [dropWhileEnd, hn, hx]
  · rw [List.reverse_append]
    rfl

theorem trimWhile_append_cons (hf : ∀ y ∈ front, p y) (hx : p x = false) (xs : List α) :
    trimWhile p (front ++ x :: xs) = x :: dropWhileEnd p xs := by
  rw [trimWhile, List.dropWhile_append_of_pos hf, List.dropWhile_cons_of_neg (by simp [hx]),
    dropWhileEnd_cons_of_neg hx]

/-- Trimming takes elements off both ends, and leaves others there. -/
theorem exists_trimWhile (p : α → Bool) (xs : List α) : ∃ front back,
    xs = front ++ trimWhile p xs ++ back ∧ ∀ x ∈ front ++ back, p x := by
  refine ⟨xs.takeWhile p, (xs.dropWhile p).rtakeWhile p, ?_, ?_⟩
  · rw [trimWhile, dropWhileEnd_eq_rdropWhile, List.append_assoc, List.rdropWhile_append_rtakeWhile,
      List.takeWhile_append_dropWhile]
  · rw [List.forall_mem_append]
    exact ⟨fun _ => List.mem_takeWhile_imp, fun _ => List.mem_rtakeWhile_imp⟩

theorem getLast?_dropWhileEnd (p : α → Bool) (xs : List α) :
    ∀ x ∈ (dropWhileEnd p xs).getLast?, p x = false := by
  intro x hx
  obtain ⟨hne, rfl⟩ := List.mem_getLast?_eq_getLast hx
  exact Bool.eq_false_iff.mpr (List.rdropWhile_last_not p xs hne)

theorem head?_trimWhile (p : α → Bool) (xs : List α) :
    ∀ x ∈ (trimWhile p xs).head?, p x = false := by
  intro x hx
  rw [trimWhile] at hx
  cases hd : xs.dropWhile p with
  | nil => simp [hd, dropWhileEnd] at hx
  | cons y ys =>
    have hy : p y = false := by
      have := List.head?_dropWhile_not p xs
      rwa [hd] at this
    rw [hd, dropWhileEnd_cons_of_neg hy] at hx
    exact Option.some.inj hx ▸ hy

theorem dropWhile_map_of_mem {q : β → Bool} {f : α → β} (h : ∀ x ∈ xs, q (f x) = p x) :
    (xs.map f).dropWhile q = (xs.dropWhile p).map f := by
  induction xs with
  | nil => rfl
  | cons x xs ih =>
    obtain ⟨hx, hs⟩ := List.forall_mem_cons.mp h
    rw [List.map_cons, List.dropWhile_cons, List.dropWhile_cons, hx, ih hs]
    split <;> rfl

theorem trimWhile_map {q : β → Bool} {f : α → β} (h : ∀ x ∈ xs, q (f x) = p x) :
    trimWhile q (xs.map f) = (trimWhile p xs).map f := by
  have hd : ∀ x ∈ (xs.dropWhile p).reverse, q (f x) = p x := fun x hm =>
    h x (xs.dropWhile_subset p (List.mem_reverse.mp hm))
  rw [trimWhile, dropWhile_map_of_mem h, dropWhileEnd, ← List.map_reverse, dropWhile_map_of_mem hd,
    ← List.map_reverse]
  rfl

end SceneMarkup.Text
