import SceneMarkup.Diagnosis.Basic
import SceneMarkup.Json.Basic

/-! # Build messages

What a build reports about a file. A message may lack a place, an excerpt or a reason.
-/

namespace SceneMarkup.Build

structure Message where
  text : String
  path : Option String := none
  line : Option Int := none
  column : Option Int := none
  excerpt : String := ""
  reason : Option String := none
  deriving DecidableEq, Repr

def numberText : Option Int → String
  | some i => toString i
  | none => "None"

namespace Message

def ofDiagnosis (d : Diagnosis) : Message where
  text := d.message
  path := d.path
  line := some d.line
  column := some d.column
  excerpt := d.excerpt
  reason := some d.reason.code

def location (m : Message) : String :=
  let path := shownPath m.path
  match m.line with
  | some line => s!"{path}:{line}:{numberText m.column}"
  | none => path

/-- The one-line form, with the excerpt below it if there is one. -/
def shown (m : Message) : String :=
  let header := m.location ++ ": " ++ m.text
  if m.excerpt.isEmpty then header else header ++ "\n" ++ m.excerpt

private def orNull {α : Type} (f : α → Json) : Option α → Json
  | some x => f x
  | none => .null

/-- The structured form that build tools read. -/
def toJson (m : Message) : Json :=
  .object [("text", .string m.text),
    ("location", .object [("file", orNull .string m.path), ("line", orNull .integer m.line),
      ("column", orNull .integer m.column), ("lineText", .string m.excerpt)]),
    ("reason", orNull .string m.reason)]

end Message

end SceneMarkup.Build
