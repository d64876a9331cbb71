import SceneMarkup.Text.Lines

/-! # Tokens

The classes of text that a reader takes in one piece. A class is given by the extent of its match
at the head of a text; every class but the comment takes the longest match.
-/

namespace SceneMarkup

/-- A class of tokens. A quoted text is matched after its opening quote, up to the closing one. -/
inductive Token where
  | blanks
  | tagName
  | identifier
  | comment
  | doubleQuoted
  | singleQuoted
  deriving DecidableEq, Repr

namespace Token

def isWordChar (c : Char) : Bool := c.isAlphanum || c == '_'

/-- The extent of words joined by single points; a point without a word after it stays outside. -/
def dottedExtent (n : Nat) : List Char → Nat
  | '.' :: c :: rest => if isWordChar c then dottedExtent (n + 2) rest else n
  | c :: rest => if isWordChar c then dottedExtent (n + 1) rest else n
  | [] => n

def commentExtent? (n : Nat) : List Char → Option Nat
  | '-' :: '-' :: '>' :: _ => some (n + 3)
  | _ :: rest => commentExtent? (n + 1) rest
  | [] => none

/-- The extent up to and with the closing quote; a backslash takes the next character along. -/
def quotedExtent? (quote : Char) (n : Nat) : List Char → Option Nat
  | '\\' :: _ :: rest => quotedExtent? quote (n + 2) rest
  | c :: rest =>
      if c = quote then some (n + 1)
      else if c = '\\' then none
      else quotedExtent? quote (n + 1) rest
  | [] => none

/-- How many characters at the head of a text belong to the token, if it matches there. -/
def extent? (t : Token) (cs : List Char) : Option Nat :=
  match t, cs with
  | blanks, cs => some (cs.takeWhile Text.isBlank).length
  | tagName, c :: rest =>
      if c.isAlpha then some (1 + (rest.takeWhile isWordChar).length) else none
  | identifier, c :: rest => if isWordChar c then some (dottedExtent 1 rest) else none
  | comment, '!' :: '-' :: '-' :: rest => commentExtent? 3 rest
  | doubleQuoted, cs => quotedExtent? '"' 0 cs
  | singleQuoted, cs => quotedExtent? '\'' 0 cs
  | _, _ => none

def pattern : Token → String
  | blanks => "\\s*"
  | tagName => "[A-Za-z][A-Za-z0-9_]*"
  | identifier => "[A-Za-z0-9_]+(?:\\.[A-Za-z0-9_]+)*"
  | comment => "!--[\\s\\S]*?-->"
  | doubleQuoted => "(?:[^\"\\\\]|\\\\.)*\""
  | singleQuoted => "(?:[^'\\\\]|\\\\.)*'"

/-- The token for the text after an opening quote. -/
def ofQuote? : Char → Option Token
  | '"' => some doubleQuoted
  | '\'' => some singleQuoted
  | _ => none

theorem le_dottedExtent (n : Nat) (cs : List Char) : n ≤ dottedExtent n cs := by
  fun_induction dottedExtent n cs <;> omega

theorem extent?_identifier_pos {cs : List Char} {n : Nat}
    (h : identifier.extent? cs = some n) : 1 ≤ n := by
  cases cs with
  | nil => cases h
  | cons c rest =>
    simp only [extent?] at h
    split at h
    · exact Option.some.inj h ▸ le_dottedExtent 1 rest
    · cases h

end Token

end SceneMarkup
