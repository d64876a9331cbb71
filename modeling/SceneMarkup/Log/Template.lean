import SceneMarkup.Log.Template.Padding

/-! # Templates

A field of a template names a text, or what is reached from one through members and positions. It
may ask for the text in quotes, and may say how the text is laid out.
-/

namespace SceneMarkup.Log.Template

def emptyStep : Problem := .malformed "Empty attribute in format string"

def answered (r : Except Thing.Refusal Thing) : Except Problem Thing := r.mapError .refused

/-- Follow the steps behind the name of a field: members by name, items by position or key. -/
def follow (t : Thing) : (fuel : Nat) → List Char → Except Problem Thing
  | 0, _ => .ok t
  | _, [] => .ok t
  | fuel + 1, c :: rest =>
      if c = '.' then
        let isPart (c : Char) : Bool := c != '.' && c != '['
        let name := rest.takeWhile isPart
        if name.isEmpty then .error emptyStep
        else do follow (← answered (t.member (String.ofList name))) fuel (rest.dropWhile isPart)
      else if c = '[' then
        let key := rest.takeWhile (· != ']')
        match rest.dropWhile (· != ']') with
        | [] => .error (.malformed "Missing ']' in format string")
        | _ :: rest => do
            match ← number? key with
            | some i => follow (← answered (t.item i)) fuel rest
            | none =>
                if key.isEmpty then throw emptyStep
                else follow (← answered (t.entry (String.ofList key))) fuel rest
      else .error (.malformed "Only '.' or '[' may follow ']' in format field specifier")

/-- What a field names. Nothing is named by its position. -/
def lookup (fields : List (String × String)) (name : List Char) : Except Problem Thing := do
  let isStop (c : Char) : Bool := c == '.' || c == '['
  let first := name.takeWhile (!isStop ·)
  let rest := name.dropWhile (!isStop ·)
  if first.isEmpty || (← number? first).isSome then throw (.refused .noSuchPosition)
  else
    let key := String.ofList first
    match fields.lookup key with
    | none => throw (.unknownField key)
    | some value => follow (.ofText value) (rest.length + 1) rest

def plain : Thing → List Char
  | .text s => s
  | t => t.shown.toList

def convert (t : Thing) : Option Char → Except Problem Thing
  | none => .ok t
  | some 's' => .ok (.text (plain t))
  | some 'r' => .ok (.ofText t.shown)
  | some 'a' => .ok (.ofText (match t with
      | .text s => Text.Quoted.asciiText (String.ofList s)
      | t => t.shown))
  | some c => .error (.malformed ("Unknown conversion specifier " ++ shownCode 127 c))

/-- A thing written by a format; only texts can be laid out. -/
def written (t : Thing) (format : List Char) : Except Problem (List Char) :=
  match t with
  | .text s => layOut s format
  | t => if format.isEmpty then .ok (plain t) else .error (.refused .unsuited)

/-- A template with its fields filled in. A format may hold fields itself, but not their formats
in turn: `depth` counts the levels left. -/
def expand (fields : List (String × String)) : (depth : Nat) → List Char →
    Except Problem (List Char)
  | 0, _ => .error (.malformed "Max string recursion exceeded")
  | depth + 1, cs => do
      let (ps, problem) := pieces (cs.length + 1) cs
      let out ← ps.foldlM (fun out p =>
        match p with
        | .literal text => pure (out ++ text)
        | .field name conversion format => do
            let thing ← lookup fields name
            let thing ← convert thing conversion
            let format ←
              if format.contains openBrace then expand fields depth format else pure format
            return out ++ (← written thing format)) []
      match problem with
      | some p => throw p
      | none => return out

def fill (fields : List (String × String)) (template : String) : Except Problem String :=
  (expand fields 2 template.toList).map String.ofList

end SceneMarkup.Log.Template
