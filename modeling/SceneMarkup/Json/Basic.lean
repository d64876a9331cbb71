import SceneMarkup.Entries
import SceneMarkup.Number.Binary64
import SceneMarkup.Number.Spelling

/-! # JSON values and their text

The members of an object keep their order. Integers and floating-point numbers are distinct. A value
is written compactly or with one member a line. Writing puts the text in front of the text that
follows. Values nested too deeply and integers of more than 64 bits have no text.
-/

namespace SceneMarkup

inductive Json where
  | null
  | bool (b : Bool)
  | integer (i : Int)
  | binary (x : Number.Binary64)
  | string (s : String)
  | array (elements : List Json)
  | object (members : List (String × Json))
  deriving Inhabited, Repr

/-- The integers of 64 bits, signed or not; no others are written. -/
def Json.isWord (i : Int) : Bool := -(Number.twoTo 63 : Int) ≤ i && i < Number.twoTo 64

end SceneMarkup

namespace SceneMarkup.Json

/-! ### Writing -/

def lowerHexDigit (n : Nat) : Char :=
  Char.ofNat (if n < 10 then 48 + n else 87 + n)

/-- A character inside quotes: the two special characters and the controls are escaped. -/
def escapeChar (c : Char) : List Char :=
  if c = '"' then ['\\', '"']
  else if c = '\\' then ['\\', '\\']
  else if c.toNat = 0x08 then ['\\', 'b']
  else if c = '\t' then ['\\', 't']
  else if c = '\n' then ['\\', 'n']
  else if c.toNat = 0x0C then ['\\', 'f']
  else if c = '\r' then ['\\', 'r']
  else if c.toNat < 0x20 then
    ['\\', 'u', '0', '0', lowerHexDigit (c.toNat / 16), lowerHexDigit (c.toNat % 16)]
  else [c]

def writeString (s : String) (k : List Char) : List Char :=
  '"' :: s.toList.foldr (fun c k => escapeChar c ++ k) ('"' :: k)

/-- Infinities and the non-number are written as null. -/
def binaryText : Number.Binary64 → String
  | .finite negative m e => Number.jsonSpelling.finite negative m e
  | _ => "null"

def writeLeaf (j : Json) (k : List Char) : List Char :=
  match j with
  | null => "null".toList ++ k
  | bool b => (if b then "true" else "false").toList ++ k
  | integer i => (toString i).toList ++ k
  | binary x => (binaryText x).toList ++ k
  | string s => writeString s k
  | array _ => '[' :: ']' :: k
  | object _ => '{' :: '}' :: k

mutual

def compact : Json → List Char → List Char
  | array (x :: xs), k => '[' :: compact x (compactElements xs k)
  | object ((key, x) :: ms), k =>
      '{' :: writeString key (':' :: compact x (compactMembers ms k))
  | j, k => writeLeaf j k

def compactElements : List Json → List Char → List Char
  | [], k => ']' :: k
  | x :: xs, k => ',' :: compact x (compactElements xs k)

def compactMembers : List (String × Json) → List Char → List Char
  | [], k => '}' :: k
  | (key, x) :: ms, k => ',' :: writeString key (':' :: compact x (compactMembers ms k))

end

/-- A new line indented by two spaces a level. -/
def newline (level : Nat) (k : List Char) : List Char :=
  '\n' :: (List.replicate (2 * level) ' ' ++ k)

mutual

def pretty (level : Nat) : Json → List Char → List Char
  | array (x :: xs), k =>
      '[' :: newline (level + 1) (pretty (level + 1) x (prettyElements level xs k))
  | object ((key, x) :: ms), k =>
      '{' :: newline (level + 1)
        (writeString key (':' :: ' ' :: pretty (level + 1) x (prettyMembers level ms k)))
  | j, k => writeLeaf j k

def prettyElements (level : Nat) : List Json → List Char → List Char
  | [], k => newline level (']' :: k)
  | x :: xs, k => ',' :: newline (level + 1) (pretty (level + 1) x (prettyElements level xs k))

def prettyMembers (level : Nat) : List (String × Json) → List Char → List Char
  | [], k => newline level ('}' :: k)
  | (key, x) :: ms, k =>
      ',' :: newline (level + 1)
        (writeString key (':' :: ' ' :: pretty (level + 1) x (prettyMembers level ms k)))

end

mutual

/-- Whether a value has a text when `depth` more containers may be opened. -/
def writable : Nat → Json → Bool
  | _, integer i => isWord i
  | 0, array _ => false
  | depth + 1, array xs => writableElements depth xs
  | 0, object _ => false
  | depth + 1, object ms => writableMembers depth ms
  | _, null => true
  | _, bool _ => true
  | _, binary _ => true
  | _, string _ => true

def writableElements (depth : Nat) : List Json → Bool
  | [] => true
  | x :: xs => writable depth x && writableElements depth xs

def writableMembers (depth : Nat) : List (String × Json) → Bool
  | [] => true
  | (_, x) :: ms => writable depth x && writableMembers depth ms

end

/-- The text of a value, if it has one in which at most `depth` containers stand inside one
another. -/
def write? (depth : Nat) (indented : Bool) (j : Json) : Option String :=
  if writable depth j then
    some (String.ofList (if indented then pretty 0 j [] else compact j []))
  else none

end SceneMarkup.Json
