import SceneMarkup.Proofs.Source.Location
import SceneMarkup.Source.Capture

/-! # Sources behind a text

Putting a source behind a text moves every place in it and changes nothing else. A reader that
starts behind the text takes what it takes without it, and stops for the same fault.
-/

namespace SceneMarkup

namespace Location

/-- The place when the source is put behind a text: only columns of the first line move. -/
def behind (p : List Char) (l : Location) : Location where
  offset := p.length + l.offset
  line := l.line + p.count '\n'
  column := if l.line = 1 then l.column + lastLine p else l.column
  line_pos := Nat.add_pos_left l.line_pos _
  column_pos := by
    have := l.column_pos
    split <;> omega

variable (p : List Char) (l : Location)

theorem behind_next (c : Char) : (l.next c).behind p = (l.behind p).next c := by
  have := l.line_pos
  unfold next
  split
  · have hl : l.line ≠ 0 := by omega
    simp [behind, hl, Nat.add_right_comm, Nat.add_assoc]
  · simp only [behind, mk.injEq, true_and]
    refine ⟨(Nat.add_assoc ..).symm, ?_⟩
    split <;> omega

theorem behind_pass (cs : List Char) : (l.pass cs).behind p = (l.behind p).pass cs := by
  induction cs generalizing l with
  | nil => rfl
  | cons c cs ih => exact (ih (l.next c)).trans (congrArg (pass · cs) (behind_next p l c))

theorem behind_start : start.behind p = start.pass p := by
  obtain ⟨ho, hl, hc⟩ := pass_eq start p
  generalize start.pass p = l at ho hl hc
  obtain ⟨offset, line, column, _, _⟩ := l
  simp only at ho hl hc
  subst ho hl hc
  simp only [behind, mk.injEq, start, if_true]
  refine ⟨Nat.add_comm .., trivial, ?_⟩
  split
  · exact Nat.add_comm ..
  · next h => rw [lastLine_of_not_mem h]

end Location

def Failure.behind (p : List Char) (f : Failure) : Failure := ⟨f.fault, f.place.behind p⟩

def Stop.behind (p : List Char) : Stop → Stop
  | .failure f => .failure (f.behind p)
  | .noQuote found => .noQuote found

/-- What a reader returns when the source is put behind a text; `move` says how that moves its
result. -/
def moved {α : Type} (p : List Char) (move : α → α) : Except Stop α → Except Stop α
  | .ok a => .ok (move a)
  | .error e => .error (e.behind p)

theorem moved_bind {α β : Type} {p : List Char} {move : α → α} {move' : β → β}
    {x : Except Stop α} {f g : α → Except Stop β} (h : ∀ a, g (move a) = moved p move' (f a)) :
    moved p move x >>= g = moved p move' (x >>= f) := by
  cases x with
  | error e => rfl
  | ok a => exact h a

namespace Scanner

def behind (p : List Char) (s : Scanner) : Scanner := ⟨s.rest, s.here.behind p⟩

def moveSnd {α : Type} (p : List Char) (r : α × Scanner) : α × Scanner := (r.1, r.2.behind p)

variable (p : List Char) (s : Scanner)

@[simp] theorem behind_rest : (s.behind p).rest = s.rest := rfl

@[simp] theorem behind_here : (s.behind p).here = s.here.behind p := rfl

@[simp] theorem behind_current? : (s.behind p).current? = s.current? := rfl

@[simp] theorem behind_skip (n : Nat) : (s.behind p).skip n = (s.skip n).behind p := by
  simp [skip, behind, Location.behind_pass]

@[simp] theorem behind_skipBlanks : (s.behind p).skipBlanks = s.skipBlanks.behind p :=
  behind_skip ..

theorem behind_expect (t : Token) (label : String) :
    (s.behind p).expect t label = moved p (moveSnd p) (s.expect t label) := by
  cases h : t.extent? s.rest with
  | none =>
    rw [expect_of_none label h, expect_of_none label (by rwa [behind_rest])]
    rfl
  | some n =>
    rw [expect_of_some label h, expect_of_some label (by rwa [behind_rest]), behind_skip]
    rfl

theorem behind_literal {c : Char} (label : String) (h : s.current? = some c) (hc : isQuote c) :
    (s.behind p).literal label = moved p (moveSnd p) (s.literal label) := by
  obtain ⟨t, ht⟩ := Token.exists_ofQuote? hc
  rw [literal_of_ofQuote? label h ht, literal_of_ofQuote? label (by rwa [behind_current?]) ht,
    behind_skip, behind_expect]
  exact moved_bind fun _ => rfl

theorem behind_binding : (s.behind p).binding = moveSnd p s.binding := by
  unfold binding
  simp only [behind_skip, behind_rest]
  split <;> simp [moveSnd, atEnd]

theorem behind_scriptBody (terminator : List Char) :
    (s.behind p).scriptBody terminator = moveSnd p (s.scriptBody terminator) := by
  unfold scriptBody
  simp only [behind_skip, behind_rest]
  split <;> simp [moveSnd, atEnd]

end Scanner

end SceneMarkup
