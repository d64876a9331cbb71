import SceneMarkup.Json.Reader
import SceneMarkup.Setting.Project

/-! # Settings files

A settings file defines names, one to a line, by written-out values: `None`, `True`, `False`,
numbers, texts in quotes, lists and tables. A value runs over several lines inside its brackets, and
a `#` starts a comment.
-/

namespace SceneMarkup.Setting

def skipLayout : (inComment : Bool) → List Char → List Char
  | _, [] => []
  | true, c :: rest => skipLayout (c != '\n') rest
  | false, '#' :: rest => skipLayout true rest
  | false, c :: rest => if Json.isSpace c then skipLayout false rest else c :: rest

/-- What is left of a line has to be blank or a comment; the lines after it. -/
def endLine? (cs : List Char) : Option (List Char) :=
  match cs.dropWhile fun c => c == ' ' || c == '\t' || c == '\r' with
  | [] => some []
  | '\n' :: rest => some rest
  | '#' :: rest => some (rest.dropWhile (· != '\n'))
  | _ => none

def isWordStart (c : Char) : Bool := c.isAlpha || c == '_'

def isWordPart (c : Char) : Bool := c.isAlphanum || c == '_'

/-- Characters of a number; a sign belongs to it at the start and after an exponent mark. -/
def numberExtent : (afterMark : Bool) → List Char → Nat
  | _, [] => 0
  | afterMark, c :: rest =>
      if isWordPart c || c == '.' || (afterMark && (c == '-' || c == '+')) then
        numberExtent (c == 'e' || c == 'E') rest + 1
      else 0

/-- The number that a word denotes; a whole number has no leading zero. -/
def number? (word : List Char) : Option Value :=
  let digits := (Number.splitSign word).2
  if !digits.any Char.isDigit then none
  else match Number.readInt (String.ofList word) with
    | some i => if digits.head? = some '0' ∧ i ≠ 0 then none else some (.integer i)
    | none => (Number.readBinary64 (String.ofList word)).map .binary

def escaped? : Char → Option Char
  | 'n' => some '\n'
  | 'r' => some '\r'
  | 't' => some '\t'
  | '\\' => some '\\'
  | '\'' => some '\''
  | '"' => some '"'
  | _ => none

/-- The rest of a text up to its closing quote, with the characters read so far reversed. -/
def readQuoted (quote : Char) (out : List Char) : List Char → Option (String × List Char)
  | [] => none
  | '\\' :: 'u' :: a :: b :: c :: d :: rest => match Json.hex4? a b c d with
    | some n => if n.isValidChar then readQuoted quote (Char.ofNat n :: out) rest else none
    | none => none
  | '\\' :: c :: rest => match escaped? c with
    | some c => readQuoted quote (c :: out) rest
    | none => none
  | c :: rest =>
      if c = quote then some (String.ofList out.reverse, rest)
      else if c = '\\' ∨ c = '\n' then none
      else readQuoted quote (c :: out) rest

def readText : List Char → Option (String × List Char)
  | c :: rest => if c = '"' ∨ c = '\'' then readQuoted c [] rest else none
  | [] => none

def readWord (cs : List Char) : Option (Value × List Char) :=
  match cs with
  | 'N' :: 'o' :: 'n' :: 'e' :: rest => some (.null, rest)
  | 'T' :: 'r' :: 'u' :: 'e' :: rest => some (.bool true, rest)
  | 'F' :: 'a' :: 'l' :: 's' :: 'e' :: rest => some (.bool false, rest)
  | _ =>
      let n := numberExtent true cs
      (number? (cs.take n)).map (·, cs.drop n)

mutual

def readValue : (fuel : Nat) → List Char → Option (Value × List Char)
  | 0, _ => none
  | fuel + 1, cs => match cs with
    | '[' :: rest => readItems fuel [] rest
    | '{' :: rest => readEntries fuel [] rest
    | '"' :: _ | '\'' :: _ => (readText cs).map fun (s, rest) => (.text s, rest)
    | _ => readWord cs

/-- The items of a list up to its end, those read so far reversed; a comma may end the list. -/
def readItems : (fuel : Nat) → List Value → List Char → Option (Value × List Char)
  | 0, _, _ => none
  | fuel + 1, out, cs => match skipLayout false cs with
    | ']' :: rest => some (.list out.reverse, rest)
    | cs => match readValue fuel cs with
      | none => none
      | some (v, rest) => match skipLayout false rest with
        | ',' :: rest => readItems fuel (v :: out) rest
        | ']' :: rest => some (.list (v :: out).reverse, rest)
        | _ => none

/-- The entries of a table up to its end; of a repeated key the last value counts. -/
def readEntries : (fuel : Nat) → Entries Value → List Char → Option (Value × List Char)
  | 0, _, _ => none
  | fuel + 1, out, cs => match skipLayout false cs with
    | '}' :: rest => some (.table out, rest)
    | cs => match readText cs with
      | none => none
      | some (key, rest) => match skipLayout false rest with
        | ':' :: rest => match readValue fuel (skipLayout false rest) with
          | none => none
          | some (v, rest) => match skipLayout false rest with
            | ',' :: rest => readEntries fuel (Entries.put out key v) rest
            | '}' :: rest => some (.table (Entries.put out key v), rest)
            | _ => none
        | _ => none

end

def readDefinition? (cs : List Char) : Option ((String × Value) × List Char) := do
  let name := cs.takeWhile isWordPart
  if !(name.head?.any isWordStart) then none
  else match Json.skipSpace (cs.dropWhile isWordPart) with
    | '=' :: rest =>
        let (v, rest) ← readValue (2 * rest.length + 2) (Json.skipSpace rest)
        let rest ← endLine? rest
        return ((String.ofList name, v), rest)
    | _ => none

def readDefinitions : (fuel : Nat) → Entries Value → List Char → Option (Entries Value)
  | 0, _, _ => none
  | fuel + 1, out, cs => match skipLayout false cs with
    | [] => some out
    | cs => match readDefinition? cs with
      | some ((name, v), rest) => readDefinitions fuel (Entries.put out name v) rest
      | none => none

def Definitions.ofText? (text : String) : Option Definitions :=
  (readDefinitions (text.length + 1) [] text.toList).map .names

end SceneMarkup.Setting
