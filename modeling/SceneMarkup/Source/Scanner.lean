import SceneMarkup.Source.Location
import SceneMarkup.Source.Token
import SceneMarkup.Source.Quoting
import SceneMarkup.Text.Quoted

/-! # Scanners

A scanner is the rest of a source together with its location. It only moves forward, by `skip`, so
its location always belongs to the text passed over.
-/

namespace SceneMarkup

/-- The unread rest of a source and the place where it begins. -/
structure Scanner where
  rest : List Char
  here : Location
  deriving DecidableEq, Repr

namespace Scanner

/-- A scanner at the start of a source. -/
def ofSource (source : List Char) : Scanner := ⟨source, .start⟩

/-- The scanner `n` characters further on, or at the end. -/
def skip (s : Scanner) (n : Nat) : Scanner := ⟨s.rest.drop n, s.here.pass (s.rest.take n)⟩

def atEnd (s : Scanner) : Scanner := s.skip s.rest.length

def current? (s : Scanner) : Option Char := s.rest.head?

/-- The text of a token and the scanner after it; without a match there is neither. -/
def take? (s : Scanner) (t : Token) : Option (List Char × Scanner) :=
  (t.extent? s.rest).map fun n => (s.rest.take n, s.skip n)

def currentText (s : Scanner) : String := String.ofList (s.rest.take 1)

def brief (s : Scanner) : String :=
  "Cursor(" ++ s.here.text ++ ", " ++ Text.Quoted.text s.currentText ++ ")"

def skipBlanks (s : Scanner) : Scanner := s.skip (s.rest.takeWhile Text.isBlank).length

/-- From the `>` of an opening tag: the raw text up to the terminator, and the scanner after that.
Without a terminator the scanner ends at the end of the source. -/
def scriptBody (s : Scanner) (terminator : List Char) : Option (List Char) × Scanner :=
  let s := s.skip 1
  match scriptExtent? terminator .start 0 s.rest with
  | some n => (some (s.rest.take n), s.skip (n + terminator.length))
  | none => (none, s.atEnd)

/-- From an opening brace: the raw text up to the balancing brace, and the scanner after that. -/
def binding (s : Scanner) : Option (List Char) × Scanner :=
  let s := s.skip 1
  match bindingExtent? .start 0 0 s.rest with
  | some n => (some (s.rest.take n), s.skip (n + 1))
  | none => (none, s.atEnd)

@[simp] theorem length_skip (s : Scanner) (n : Nat) :
    (s.skip n).rest.length = s.rest.length - n := by
  simp [skip]

theorem skip_skip (s : Scanner) (m n : Nat) : (s.skip m).skip n = s.skip (m + n) := by
  simp [skip, List.take_add, Location.pass_append]

@[simp] theorem length_skipBlanks_le (s : Scanner) :
    s.skipBlanks.rest.length ≤ s.rest.length := by
  simp [skipBlanks]

end Scanner

end SceneMarkup
