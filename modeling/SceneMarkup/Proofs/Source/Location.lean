import Mathlib.Data.List.Induction
import Mathlib.Tactic.Common
import SceneMarkup.Source.Location

/-! # Lines and columns

The place behind a text is read off the text: lines are counted by line feeds, and columns from the
last one.
-/

namespace SceneMarkup

/-- How long the last line of a text is. -/
def lastLine (cs : List Char) : Nat := cs.reverse.idxOf '\n'

/-- The index just after the last line feed of a text, or 0. -/
def lineStart (cs : List Char) : Nat := cs.length - lastLine cs

variable {c : Char} {cs ds : List Char}

theorem lastLine_concat (cs : List Char) (c : Char) :
    lastLine (cs ++ [c]) = if c = '\n' then 0 else lastLine cs + 1 := by
  simp [lastLine, List.idxOf_cons]

theorem lastLine_le (cs : List Char) : lastLine cs ≤ cs.length := by
  simpa [lastLine] using List.idxOf_le_length (a := '\n') (l := cs.reverse)

theorem lastLine_of_not_mem (h : '\n' ∉ cs) : lastLine cs = cs.length := by
  rw [lastLine, List.idxOf_eq_length (by simpa using h), List.length_reverse]

namespace Location

/-- The place behind a text is known from its length, its line feeds and its last line. -/
theorem pass_eq (l : Location) (cs : List Char) :
    (l.pass cs).offset = l.offset + cs.length ∧
    (l.pass cs).line = l.line + cs.count '\n' ∧
    (l.pass cs).column = if '\n' ∈ cs then lastLine cs + 1 else l.column + cs.length := by
  induction cs using List.reverseRecOn with
  | nil => simp [pass]
  | append_singleton cs c ih =>
    have hp : l.pass (cs ++ [c]) = (l.pass cs).next c := by simp [pass]
    obtain ⟨ho, hl, hc⟩ := ih
    rw [hp, next]
    split
    · next h =>
      subst h
      simp [ho, hl, lastLine_concat]
      omega
    · next h =>
      refine ⟨by simp [ho, Nat.add_assoc], by simp [hl, h], ?_⟩
      by_cases hm : '\n' ∈ cs <;> simp [hc, hm, Ne.symm h, h, lastLine_concat, Nat.add_assoc]

theorem offset_start_pass (cs : List Char) : (start.pass cs).offset = cs.length :=
  (pass_eq start cs).1.trans (Nat.zero_add _)

theorem line_start_pass (cs : List Char) : (start.pass cs).line = 1 + cs.count '\n' :=
  (pass_eq start cs).2.1

theorem column_start_pass (cs : List Char) :
    (start.pass cs).column = cs.length - lineStart cs + 1 := by
  have hle := lastLine_le cs
  rw [(pass_eq start cs).2.2]
  split
  · simp [lineStart]
    omega
  · next h =>
    have := lastLine_of_not_mem h
    simp [lineStart, this, start]
    omega

end Location

end SceneMarkup
