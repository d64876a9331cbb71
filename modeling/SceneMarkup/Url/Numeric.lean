import SceneMarkup.Text.Lines
import SceneMarkup.Url.Escape

/-! # Numeric hosts

A host can be given by number: four numbers below 256 with dots between them, or eight groups of
hexadecimal digits with colons between them, where two colons stand for a row of zero groups.
-/

namespace SceneMarkup.Url

open Text

section FourNumbers

/-- Where the reading of runs of digits with one character between them can stand: how many runs are
complete, and whether another has begun. -/
def advance (c : Char) (standing : Nat × Bool) : List (Nat × Bool) :=
  let (complete, begun) := standing
  (if c.isDigit then [(complete, true)] else []) ++
    (if begun && complete < 3 then [(complete + 1, false)] else [])

/-- Whether a text can be read as four runs of digits with any one character between them. -/
def looksNumeric (cs : List Char) : Bool :=
  (cs.foldl (fun standings c => (standings.flatMap (advance c)).eraseDups) [(0, false)]).contains
    (3, true)

def isByteNumber (cs : List Char) : Bool :=
  !cs.isEmpty && cs.length ≤ 3 && cs.all Char.isDigit && (cs.length == 1 || cs.head? != some '0') &&
    cs.foldl (fun n c => 10 * n + (c.toNat - 48)) 0 < 256

def isFourNumbers (cs : List Char) : Bool :=
  let numbers := splitOnP (· == '.') cs
  numbers.length == 4 && numbers.all isByteNumber

end FourNumbers

section EightGroups

def isGroup (cs : List Char) : Bool := !cs.isEmpty && cs.length ≤ 4 && cs.all isHex

/-- The groups of an address; four numbers at its end count as two groups. -/
def groups? (cs : List Char) : Option (List (List Char)) :=
  let groups := splitOnP (· == ':') cs
  let last := groups.getLastD []
  if !last.contains '.' then some groups
  else if isFourNumbers last then some (groups.dropLast ++ [['0'], ['0']])
  else none

/-- Groups on one side of a gap; the gap may be at the end of the address. -/
def isSide (groups : List (List Char)) : Bool := groups == [[]] || groups.all isGroup

def sideSize (groups : List (List Char)) : Nat := if groups == [[]] then 0 else groups.length

/-- Whether groups make an address. The gap, if there is one, is an empty group that neither starts
nor ends it, and stands for at least one. -/
def isAddress (groups : List (List Char)) : Bool :=
  match groups.tail.dropLast.findIdx? List.isEmpty with
  | some i =>
      let before := groups.take (i + 1)
      let after := groups.drop (i + 2)
      isSide before && isSide after && sideSize before + sideSize after < 8
  | none => groups.length == 8 && groups.all isGroup

/-- Whether a text is an address of eight groups, with the name of a zone behind a percent sign if
there is one. -/
def isEightGroups (cs : List Char) : Bool :=
  let isZoned := cs.contains '%'
  let zone := (cs.dropWhile (· != '%')).drop 1
  !cs.contains '/' && (!isZoned || (!zone.isEmpty && !zone.contains '%')) &&
    (groups? (cs.takeWhile (· != '%'))).any isAddress

end EightGroups

end SceneMarkup.Url
