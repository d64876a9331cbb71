/-! # Locations

A location counts the characters, lines and columns before it. Only a line feed ends a line; the
character after it stands in column 1.
-/

namespace SceneMarkup

/-- A place in a source: characters before it, and line and column, both from 1. -/
structure Location where
  offset : Nat
  line : Nat
  column : Nat
  line_pos : 0 < line
  column_pos : 0 < column
  deriving DecidableEq, Repr

namespace Location

def start : Location where
  offset := 0
  line := 1
  column := 1
  line_pos := Nat.one_pos
  column_pos := Nat.one_pos

def next (l : Location) (c : Char) : Location :=
  if c = '\n' then ⟨l.offset + 1, l.line + 1, 1, Nat.succ_pos _, Nat.one_pos⟩
  else ⟨l.offset + 1, l.line, l.column + 1, l.line_pos, Nat.succ_pos _⟩

/-- The place after a stretch of text. -/
def pass (l : Location) (cs : List Char) : Location := cs.foldl next l

def text (l : Location) : String := s!"{l.line}:{l.column}"

theorem pass_append (l : Location) (cs ds : List Char) :
    l.pass (cs ++ ds) = (l.pass cs).pass ds := by
  simp [pass, List.foldl_append]

end Location

end SceneMarkup
