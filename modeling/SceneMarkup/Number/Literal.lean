import SceneMarkup.Number.Binary64
import SceneMarkup.Text.Lines
import SceneMarkup.Text.CharClass

/-! # Numbers read from text

A text is an integer or a floating-point number when, trimmed of padding, it consists of an
optional sign and digits of any script, with single underscores between digits.
-/

namespace SceneMarkup.Number

/-- Characters that may surround a number: the six common blanks and those outside ASCII. -/
def isPadding (c : Char) : Bool :=
  (0x09 ≤ c.toNat && c.toNat ≤ 0x0D) || c == ' ' || (c.toNat ≥ 128 && Text.isBlank c)

/-- The text with digits of every script as `0` to `9`; any other character outside ASCII spoils
the number. -/
def plainDigits (cs : List Char) : Option (List Char) :=
  cs.mapM fun c =>
    if c.toNat < 127 then some c else (Text.digitValue? c).map fun n => Char.ofNat (48 + n)

/-- Remove the underscores; each must stand between two digits. -/
def joinDigits : (afterDigit : Bool) → List Char → Option (List Char)
  | _, [] => some []
  | false, '_' :: _ => none
  | true, '_' :: c :: rest =>
      if c.isDigit then (joinDigits true rest).map (c :: ·) else none
  | true, ['_'] => none
  | _, c :: rest => (joinDigits c.isDigit rest).map (c :: ·)

def splitSign : List Char → Bool × List Char
  | '-' :: rest => (true, rest)
  | '+' :: rest => (false, rest)
  | cs => (false, cs)

def natOfDigits (cs : List Char) : Nat := cs.foldl (fun n c => 10 * n + (c.toNat - 48)) 0

def maxIntegerDigits : Nat := 4300

def normalised (s : String) : Option (List Char) :=
  (plainDigits (Text.trimWhile isPadding s.toList)).bind (joinDigits false)

def readInt (s : String) : Option Int := do
  let (negative, digits) := splitSign (← normalised s)
  if digits.isEmpty || !digits.all Char.isDigit || digits.length > maxIntegerDigits then none
  else some (if negative then -(natOfDigits digits) else natOfDigits digits)

/-- The exponent that follows a mark `e`, if any; nothing else may follow. -/
def readExponent : List Char → Option Int
  | [] => some 0
  | c :: rest =>
      if c = 'e' ∨ c = 'E' then
        let (negative, digits) := splitSign rest
        if digits.isEmpty || !digits.all Char.isDigit then none
        else some (if negative then -(natOfDigits digits) else natOfDigits digits)
      else none

def readUnsigned (negative : Bool) (cs : List Char) : Option Binary64 := do
  let whole := cs.takeWhile Char.isDigit
  let rest := cs.dropWhile Char.isDigit
  let (fraction, rest) := match rest with
    | '.' :: rest => (rest.takeWhile Char.isDigit, rest.dropWhile Char.isDigit)
    | rest => ([], rest)
  if whole.isEmpty && fraction.isEmpty then none
  else
    let exponent ← readExponent rest
    some (.ofDecimal negative (natOfDigits (whole ++ fraction)) (exponent - fraction.length))

/-- The floating-point number that a text denotes; infinities and the non-number have names. -/
def readBinary64 (s : String) : Option Binary64 := do
  let (negative, cs) := splitSign (← normalised s)
  let word := String.ofList (cs.map Char.toLower)
  if word = "inf" ∨ word = "infinity" then some (.infinite negative)
  else if word = "nan" then some .nan
  else readUnsigned negative cs

end SceneMarkup.Number
