import SceneMarkup.Json.Basic
import SceneMarkup.Log.Moment
import SceneMarkup.Log.Record
import SceneMarkup.Log.Template

/-! # Layouts

A record is written as one line of text from a template, or as one JSON object.
-/

namespace SceneMarkup.Log

/-- How a record becomes text; `colored` paints the name of the level. -/
structure TextLayout where
  template : String
  datePattern : String
  colored : Bool
  deriving DecidableEq, Repr

namespace TextLayout

def defaultTemplate : String := "\x7btimestamp\x7d [\x7blevel\x7d] \x7bmessage\x7d"

def defaultDatePattern : String := "%Y-%m-%d %H:%M:%S"

def standard (colored : Bool) : TextLayout := ⟨defaultTemplate, defaultDatePattern, colored⟩

/-- A layout with a template of its own; an empty one counts as none. -/
def ofTemplate (template : Option String) (datePattern : Option String) (colored : Bool) :
    TextLayout where
  template := match template with
    | some t => if t.isEmpty then defaultTemplate else t
    | none => defaultTemplate
  datePattern := datePattern.getD defaultDatePattern
  colored := colored

end TextLayout

def Level.color : Level → String
  | debug => "\x1b[36m"
  | info => "\x1b[32m"
  | warning => "\x1b[33m"
  | error => "\x1b[31m"
  | critical => "\x1b[35m"

namespace Record

def fullMessage (r : Record) : String :=
  " ".intercalate (r.message :: r.context.map fun e => e.1 ++ "=" ++ e.2.shown)

def toText (r : Record) (layout : TextLayout) (time : Moment) : Except Template.Problem String := do
  let level := if layout.colored then r.level.color ++ r.level.name ++ "\x1b[0m" else r.level.name
  let line ← Template.fill
    [("timestamp", time.fill layout.datePattern), ("level", level), ("message", r.fullMessage),
      ("logger", r.logger)] layout.template
  match r.reported? with
  | .ok none => return line
  | .ok (some f) => return line ++ "\n" ++ f.line
  | .error () => throw (.refused .noSuchMember)

/-- The record as a JSON object, unless its cause cannot be reported; context and cause are left
out when there are none. -/
def toJson? (r : Record) (time : Moment) : Option Json :=
  let object (cause : List (String × Json)) : Json :=
    .object ([("timestamp", .string time.iso), ("level", .string r.level.name),
        ("message", .string r.message), ("logger", .string r.logger)] ++
      (if r.context.isEmpty then [] else [("context", (Value.table r.context).toJson)]) ++ cause)
  match r.reported? with
  | .ok none => some (object [])
  | .ok (some f) => some (object [("exception", .object [("type", .string f.kind),
      ("message", .string f.message), ("traceback", .array [.string f.line])])])
  | .error () => none

def jsonText? (r : Record) (depth : Nat) (time : Moment) : Option String :=
  (r.toJson? time).bind (·.write? depth false)

end Record

end SceneMarkup.Log
