/-! # Blanks, lines and margins

The blanks are the spaces, tabs and separators of every script. A text is cut into lines at line
feeds, so a text that ends with one has an empty last line. The printed lines of a text end at any
of the usual line breaks, and a last break opens no line. The margin of a block is the longest run
of spaces and tabs with which all its lines begin, lines of nothing else apart.
-/

namespace SceneMarkup.Text

/-! ### Blanks -/

/-- White space of any script, line ends included. -/
def isBlank (c : Char) : Bool :=
  let n := c.toNat
  (0x09 ≤ n && n ≤ 0x0D) || (0x1C ≤ n && n ≤ 0x20) || n == 0x85 || n == 0xA0 || n == 0x1680 ||
    (0x2000 ≤ n && n ≤ 0x200A) || n == 0x2028 || n == 0x2029 || n == 0x202F || n == 0x205F ||
    n == 0x3000

def dropWhileEnd {α : Type} (p : α → Bool) (xs : List α) : List α :=
  (xs.reverse.dropWhile p).reverse

def trimWhile {α : Type} (p : α → Bool) (xs : List α) : List α :=
  dropWhileEnd p (xs.dropWhile p)

/-! ### Lines -/

/-- The pieces of a list between the elements satisfying `p`; there is at least one. -/
def splitOnP {α : Type} (p : α → Bool) (xs : List α) : List (List α) :=
  xs.foldr (fun x pieces =>
    if p x then [] :: pieces
    else match pieces with
      | piece :: pieces => (x :: piece) :: pieces
      | [] => [[x]]) [[]]

/-- The lines of a text, cut at line feeds. -/
def lines (cs : List Char) : List (List Char) := splitOnP (· == '\n') cs

/-- The pieces joined with a separator between them. -/
def join {α : Type} (separator : List α) (pieces : List (List α)) : List α :=
  separator.intercalate pieces

def isLineBreak (c : Char) : Bool :=
  let n := c.toNat
  (0x0A ≤ n && n ≤ 0x0D) || (0x1C ≤ n && n ≤ 0x1E) || n == 0x85 || n == 0x2028 || n == 0x2029

/-- How many lines a text prints; `started` says that the last one has begun. -/
def printedLines (started : Bool) (n : Nat) : List Char → Nat
  | [] => if started then n + 1 else n
  | '\r' :: '\n' :: rest => printedLines false (n + 1) rest
  | c :: rest => if isLineBreak c then printedLines false (n + 1) rest else printedLines true n rest

/-- Every carriage return, with the line feed after it if there is one, becomes a line feed. -/
def unifyLineEnds (out : List Char) : List Char → List Char
  | [] => out.reverse
  | '\r' :: '\n' :: rest => unifyLineEnds ('\n' :: out) rest
  | '\r' :: rest => unifyLineEnds ('\n' :: out) rest
  | c :: rest => unifyLineEnds (c :: out) rest

/-! ### Margins -/

def isIndent (c : Char) : Bool := c == ' ' || c == '\t'

def isEmptyLine (line : List Char) : Bool := line.all isIndent

def commonStart : List Char → List Char → List Char
  | a :: as, b :: bs => if a = b then a :: commonStart as bs else []
  | _, _ => []

def margin (lines : List (List Char)) : List Char :=
  match (lines.filter (!isEmptyLine ·)).map (·.takeWhile isIndent) with
  | [] => []
  | indent :: indents => indents.foldl commonStart indent

def undentedLines (cs : List Char) : List (List Char) :=
  let all := lines cs
  let n := (margin all).length
  all.map fun line => if isEmptyLine line then [] else line.drop n

/-- The lines of a block of code: no margin, no empty lines at either end, no blanks at the end of
a line. A block without anything is one empty line. -/
def blockLines (cs : List Char) : List (List Char) :=
  match trimWhile List.isEmpty (undentedLines cs) with
  | [] => [[]]
  | block => block.map (dropWhileEnd isBlank)

end SceneMarkup.Text
