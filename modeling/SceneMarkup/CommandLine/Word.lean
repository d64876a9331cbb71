import SceneMarkup.CommandLine.Grammar
import SceneMarkup.Number.Literal

/-! # Command line words

Every word of a command line is plain, an option, or the mark after which all words are plain. An
option may be shortened as long as only one name starts that way, and may have its value attached
after an equals sign; a short option may have it, or more short options, attached without one.
-/

namespace SceneMarkup.CommandLine

/-- An option as it was given. Its rule is missing when the name is unknown. -/
structure Given where
  rule : Option OptionRule
  name : String
  attached : Option (List Char)
  deriving DecidableEq, Repr

inductive Word where
  /-- The mark after which all words are plain. -/
  | mark
  | plain (text : String)
  | option (text : String) (given : Given)
  deriving DecidableEq, Repr

def Word.text : Word → String
  | mark => "--"
  | plain s => s
  | option s _ => s

def Word.isMark : Word → Bool
  | mark => true
  | _ => false

def Word.isOption : Word → Bool
  | option _ _ => true
  | _ => false

def splitValue (cs : List Char) : List Char × Option (List Char) :=
  let name := cs.takeWhile (· != '=')
  match cs.drop name.length with
  | _ :: value => (name, some value)
  | [] => (name, none)

/-- Whether a word has the form of a negative number. A last newline does not count. -/
def isNegativeNumber (cs : List Char) : Bool :=
  match cs with
  | '-' :: rest =>
      let rest := if rest.getLast? == some '\n' then rest.dropLast else rest
      let isDigit (c : Char) : Bool := (Text.digitValue? c).isSome
      let whole := rest.takeWhile isDigit
      match rest.drop whole.length with
      | [] => !whole.isEmpty
      | '.' :: fraction => !fraction.isEmpty && fraction.all isDigit
      | _ => false
  | _ => false

namespace Grammar

def candidates (g : Grammar) (cs : List Char) : List Given :=
  match cs with
  | '-' :: '-' :: _ =>
      let (name, value) := splitValue cs
      g.names.filterMap fun (full, rule) =>
        if name.isPrefixOf full.toList then some ⟨rule, full, value⟩ else none
  | '-' :: c :: rest =>
      g.names.filterMap fun (full, rule) =>
        if full.toList = ['-', c] then some ⟨rule, full, some rest⟩
        else if cs.isPrefixOf full.toList then some ⟨rule, full, none⟩
        else none
  | _ => []

/-- An option that is written out, with or without a value after an equals sign. -/
def written? (g : Grammar) (cs : List Char) : Option Given :=
  match g.option? (String.ofList cs) with
  | some rule => some ⟨rule, String.ofList cs, none⟩
  | none => match splitValue cs with
    | (_, none) => none
    | (name, some value) =>
        (g.option? (String.ofList name)).map fun rule => ⟨rule, String.ofList name, some value⟩

def ambiguousMessage (text : String) (found : List Given) : String :=
  "ambiguous option: " ++ text ++ " could match " ++ ", ".intercalate (found.map (·.name))

/-- What a word is, before any mark. -/
def classify (g : Grammar) (text : String) : Except String Word :=
  match text.toList with
  | '-' :: c :: rest =>
      let cs := '-' :: c :: rest
      match g.written? cs with
      | some given => .ok (.option text given)
      | none => match g.candidates cs with
        | [given] => .ok (.option text given)
        | first :: second :: more => .error (ambiguousMessage text (first :: second :: more))
        | [] =>
            if isNegativeNumber cs || cs.contains ' ' then .ok (.plain text)
            else .ok (.option text ⟨none, text, none⟩)
  | _ => .ok (.plain text)

def words (g : Grammar) : List String → Except String (List Word)
  | [] => .ok []
  | text :: rest =>
      if text = "--" then .ok (.mark :: rest.map .plain)
      else do
        let word ← g.classify text
        let more ← g.words rest
        return word :: more

end Grammar

end SceneMarkup.CommandLine
