import SceneMarkup.DomainName.Composition
import SceneMarkup.DomainName.Context
import SceneMarkup.DomainName.Direction
import SceneMarkup.DomainName.Permitted
import SceneMarkup.DomainName.Punycode
import SceneMarkup.Text.Lines
import SceneMarkup.Text.Lowercase

/-! # Domain names

A domain name is a row of labels. Labels in other scripts are sent in an ASCII form, which starts
with a mark. A name is written in ASCII, and read back, only if all of its labels keep the rules.
-/

namespace SceneMarkup

inductive DomainName.Problem where
  /-- A length, hyphens, marks or the ASCII form are wrong. -/
  | form
  | character
  | context
  | direction
  deriving DecidableEq, Repr

namespace DomainName

open Text

section Labels

def maxLabel : Nat := 63

def maxName : Nat := 253

/-- Hyphens stand neither at the ends nor together in third and fourth place. -/
def hasGoodHyphens (label : List Char) : Bool :=
  (label.drop 2).take 2 != ['-', '-'] && label.head? != some '-' && label.getLast? != some '-'

/-- Every character is permitted, if need be by its context; the characters before are given nearest
first. A joiner out of place is a matter of form. -/
def checkCharacters (before : List Char) : List Char → Except Problem Unit
  | [] => .ok ()
  | c :: rest =>
      if isPermitted c then checkCharacters (c :: before) rest
      else if !needsContext c then .error .character
      else if suits before c rest then checkCharacters (c :: before) rest
      else .error (if isJoiner c then .form else .context)

def isRightward (d : Direction) : Bool := d == .right || d == .arabic || d == .arabicNumber

/-- The directions of a label go together: a label from right to left has no letters from left to
right and no digits of both kinds, one from left to right nothing that runs the other way. -/
def goTogether (directions : List Direction) : Bool :=
  let last := (dropWhileEnd (· == .mark) directions).getLast?
  match directions.head? with
  | some .right | some .arabic =>
      !directions.contains .left &&
        !(directions.contains .number && directions.contains .arabicNumber) &&
        last.any fun d => isRightward d || d == .number
  | some .left => !directions.any isRightward && last.any fun d => d == .left || d == .number
  | _ => false

def checkDirections (label : List Char) : Except Problem Unit :=
  let directions := label.map Direction.of
  if !directions.any isRightward || goTogether directions then .ok () else .error .direction

def check (label : List Char) : Except Problem Unit := do
  if label.isEmpty || label.length > maxName + 1 || !isComposed label || !hasGoodHyphens label ||
      label.head?.any isCombiner then throw .form
  checkCharacters [] label
  checkDirections label

def asciiMark : List Char := ['x', 'n', '-', '-']

def isAscii (label : List Char) : Bool := label.all (·.toNat < 128)

def readLabel (label : List Char) : Except Problem (List Char) := do
  if isAscii label then
    let small := label.map Char.toLower
    match asciiMark.isPrefixOf? small with
    | some rest =>
        if rest.isEmpty || rest.getLast? == some '-' then throw .form
        match Punycode.decode? rest with
        | some text => check text; return text
        | none => throw .form
    | none => check small; return small
  else check label; return label

def asciiLabel (label : List Char) : Except Problem (List Char) := do
  let form ← if isAscii label then (readLabel label).map fun _ => label
    else (check label).map fun _ => asciiMark ++ Punycode.encode label
  if form.length > maxLabel then throw .form else return form

end Labels

section Names

def isDot (c : Char) : Bool := [0x2E, 0x3002, 0xFF0E, 0xFF61].contains c.toNat

/-- The labels of a name, and whether a dot ends it. -/
def labels (name : List Char) : List (List Char) × Bool :=
  let all := splitOnP isDot name
  if all.getLast? == some [] then (all.dropLast, true) else (all, false)

def mapLabels (f : List Char → Except Problem (List Char)) (name : List Char) :
    Except Problem (List Char) := do
  if name.isEmpty || name.length > maxName + 1 then throw .form
  let (labels, isEnded) := labels name
  return join ['.'] ((← labels.mapM f) ++ if isEnded then [[]] else [])

def toAscii (name : List Char) : Except Problem (List Char) := do
  let form ← mapLabels asciiLabel name
  let isEnded := (labels name).2
  if form.length > maxName + isEnded.toNat then throw .form else return form

/-- Read a name whose labels may be in ASCII form. -/
def ofAscii (name : List Char) : Except Problem (List Char) := mapLabels readLabel name

end Names

end DomainName

end SceneMarkup
