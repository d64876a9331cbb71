import SceneMarkup.Text.Lines

/-! # Excerpts

An excerpt shows the line of a place with a caret under its column, and some lines above and below
it. Line numbers stand right-aligned in a gutter.
-/

namespace SceneMarkup

/-- What an excerpt points at. The three numbers are shown as given and need not agree. -/
structure Spot where
  offset : Nat
  line : Int
  column : Int
  deriving DecidableEq, Repr

namespace Excerpt

def defaultContext : Int := 3

def tabWidth : Nat := 4

def display (cs : List Char) : List Char :=
  cs.flatMap fun c => if c = '\t' then List.replicate tabWidth ' ' else [c]

def spaces (n : Nat) : List Char := List.replicate n ' '

/-- A line number, right-aligned. -/
def numbered (gutter : Nat) (n : Int) : List Char :=
  let digits := (toString n).toList
  spaces (gutter - digits.length) ++ digits

/-- A line behind its marker and number. -/
def row (marker : Char) (gutter : Nat) (n : Int) (text : List Char) : List Char :=
  marker :: ' ' :: (numbered gutter n ++ [' ', '|', ' '] ++ display text)

/-- Where the line of an offset begins: behind the last line feed before the offset. -/
def lineBegin (source : List Char) (offset : Nat) : Nat :=
  let before := source.take offset
  before.length - before.reverse.idxOf '\n'

/-- Where the line of an offset ends: at the next line feed, or at the end of the source. -/
def lineEnd (source : List Char) (offset : Nat) : Nat :=
  offset + (source.drop offset).idxOf '\n'

/-- At most `count` lines in front of the one that begins at an offset; `n` numbers the last of
them. -/
def rowsAbove (source : List Char) (gutter : Nat) : (count : Nat) → Int → Nat → List (List Char)
  | 0, _, _ => []
  | count + 1, n, start =>
      if n ≤ 0 ∨ start = 0 then []
      else
        let stop := start - 1
        let start := lineBegin source stop
        rowsAbove source gutter count (n - 1) start ++
          [row ' ' gutter n (source.extract start stop)]

/-- At most `count` lines behind the one that ends at an offset; `n` numbers the first of them. A
line without a character at the end of the source is none. -/
def rowsBelow (source : List Char) (gutter : Nat) : (count : Nat) → Int → Nat → List (List Char)
  | 0, _, _ => []
  | count + 1, n, stop =>
      let start := stop + 1
      if source.length ≤ start then []
      else
        let stop := lineEnd source start
        row ' ' gutter n (source.extract start stop) :: rowsBelow source gutter count (n + 1) stop

/-- The excerpt as a list of lines. -/
def rows (source : List Char) (spot : Spot) (context : Int) : List (List Char) :=
  let gutter := (toString (spot.line + context)).length
  let start := lineBegin source spot.offset
  let stop := lineEnd source spot.offset
  let tabs := (source.extract start spot.offset).count '\t'
  let caret := spot.column + (tabs * (tabWidth - 1) : Nat)
  rowsAbove source gutter context.toNat (spot.line - 1) start ++
    [row '>' gutter spot.line (source.extract start stop),
      spaces (gutter + 3) ++ ['|'] ++ spaces caret.toNat ++ ['^']] ++
    if spot.offset < source.length then
      rowsBelow source gutter context.toNat (spot.line + 1) stop
    else []

/-- The excerpt as text without a line end after it. -/
def render (source : List Char) (spot : Spot) (context : Int) : String :=
  String.ofList (Text.join ['\n'] (rows source spot context))

end Excerpt

end SceneMarkup
