import SceneMarkup.Entries
import SceneMarkup.Json.Basic
import SceneMarkup.Number.Spelling
import SceneMarkup.Path.Basic
import SceneMarkup.Text.Quoted

/-! # Values

The values that settings hold and that log records carry, and their texts in messages: a text is
shown as it is on its own, and in quotes inside a list or table.
-/

namespace SceneMarkup

inductive Value where
  | null
  | bool (b : Bool)
  | integer (i : Int)
  | binary (x : Number.Binary64)
  | text (s : String)
  | list (elements : List Value)
  | table (entries : List (String × Value))
  | path (p : Path)
  deriving Inhabited, Repr

namespace Value

mutual

def inner : Value → String
  | null => "None"
  | bool b => if b then "True" else "False"
  | integer i => toString i
  | binary x => x.text
  | text s => Text.Quoted.text s
  | list [] => "[]"
  | list (x :: xs) => "[" ++ inner x ++ innerElements xs ++ "]"
  | table [] => "\x7b\x7d"
  | table ((key, x) :: es) =>
      "\x7b" ++ Text.Quoted.text key ++ ": " ++ inner x ++ innerEntries es ++ "\x7d"
  | path p => "PosixPath(" ++ Text.Quoted.text p.text ++ ")"

def innerElements : List Value → String
  | [] => ""
  | x :: xs => ", " ++ inner x ++ innerElements xs

def innerEntries : List (String × Value) → String
  | [] => ""
  | (key, x) :: es => ", " ++ Text.Quoted.text key ++ ": " ++ inner x ++ innerEntries es

end

def shown : Value → String
  | text s => s
  | path p => p.text
  | v => v.inner

mutual

/-- The JSON form of a value; a path becomes its text. -/
def toJson : Value → Json
  | null => .null
  | bool b => .bool b
  | integer i => .integer i
  | binary x => .binary x
  | text s => .string s
  | list xs => .array (elementsToJson xs)
  | table es => .object (entriesToJson es)
  | path p => .string p.text

def elementsToJson : List Value → List Json
  | [] => []
  | x :: xs => toJson x :: elementsToJson xs

def entriesToJson : List (String × Value) → List (String × Json)
  | [] => []
  | (key, x) :: es => (key, toJson x) :: entriesToJson es

end

mutual

/-- The value that a JSON value denotes. -/
def ofJson : Json → Value
  | .null => null
  | .bool b => bool b
  | .integer i => integer i
  | .binary x => binary x
  | .string s => text s
  | .array xs => list (elementsOfJson xs)
  | .object ms => table (entriesOfJson ms)

def elementsOfJson : List Json → List Value
  | [] => []
  | x :: xs => ofJson x :: elementsOfJson xs

def entriesOfJson : List (String × Json) → List (String × Value)
  | [] => []
  | (key, x) :: ms => (key, ofJson x) :: entriesOfJson ms

end

/-- Whether a value counts as true: zero and everything empty counts as false. A path has no
empty form. -/
def truthy : Value → Bool
  | null => false
  | bool b => b
  | integer i => i != 0
  | binary x => !x.isZero
  | text s => !s.isEmpty
  | list xs => !xs.isEmpty
  | table es => !es.isEmpty
  | path _ => true

mutual

/-- How many values stand inside one another, keys of tables included. -/
def levels : Value → Nat
  | list xs => 1 + levelsOfElements xs
  | table [] => 1
  | table (e :: es) => 1 + max 1 (levelsOfEntries (e :: es))
  | _ => 1

def levelsOfElements : List Value → Nat
  | [] => 0
  | x :: xs => max (levels x) (levelsOfElements xs)

def levelsOfEntries : List (String × Value) → Nat
  | [] => 0
  | (_, x) :: es => max (levels x) (levelsOfEntries es)

end

def kind : Value → String
  | null => "NoneType"
  | bool _ => "bool"
  | integer _ => "int"
  | binary _ => "float"
  | text _ => "str"
  | list _ => "list"
  | table _ => "dict"
  | path _ => "PosixPath"

end Value

end SceneMarkup
