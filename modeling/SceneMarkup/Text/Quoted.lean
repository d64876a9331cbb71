import SceneMarkup.Text.CharClass

/-! # Quoted text

Messages show a text in quotes: single ones, unless the text holds single quotes and no double
ones. Characters that cannot be printed are shown by their code.
-/

namespace SceneMarkup.Text.Quoted

def hexDigit (n : Nat) : Char := Char.ofNat (if n < 10 then 48 + n else 87 + n)

def hexDigits (n : Nat) : (width : Nat) → List Char → List Char
  | 0, k => k
  | width + 1, k => hexDigits (n / 16) width (hexDigit (n % 16) :: k)

/-- A code of two, four or eight digits, as many as the character needs. -/
def codeOf (c : Char) : List Char :=
  let n := c.toNat
  if n < 0x100 then '\\' :: 'x' :: hexDigits n 2 []
  else if n < 0x10000 then '\\' :: 'u' :: hexDigits n 4 []
  else '\\' :: 'U' :: hexDigits n 8 []

/-- A character between quotes of one kind; `stands` says which characters stand for themselves. -/
def escapeChar (stands : Char → Bool) (quote c : Char) : List Char :=
  if c = quote ∨ c = '\\' then ['\\', c]
  else if c = '\n' then ['\\', 'n']
  else if c = '\r' then ['\\', 'r']
  else if c = '\t' then ['\\', 't']
  else if stands c then [c]
  else codeOf c

def quoteOf (cs : List Char) : Char :=
  if cs.contains '\'' && !cs.contains '"' then '"' else '\''

/-- The text in quotes, with every character outside `stands` as a code. -/
def encode (stands : Char → Bool) (s : String) : String :=
  let cs := s.toList
  let quote := quoteOf cs
  String.ofList (quote :: (cs.flatMap (escapeChar stands quote) ++ [quote]))

def text (s : String) : String := encode isPrintable s

def asciiText (s : String) : String := encode (fun c => c.toNat < 128 && isPrintable c) s

end SceneMarkup.Text.Quoted
