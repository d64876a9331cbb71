import SceneMarkup.Diagnosis.Excerpt
import SceneMarkup.Diagnosis.Fault

/-! # Diagnoses

A diagnosis is the complete report of a fault: reason, message, path, place and excerpt.
-/

namespace SceneMarkup

/-- Why and where a source was refused. -/
structure Diagnosis where
  reason : Reason
  message : String
  line : Int
  column : Int
  offset : Int
  excerpt : String
  path : Option String
  label : Option String
  deriving DecidableEq, Repr

def namelessSource : String := "<source>"

/-- The path shown for a source; an empty path counts as none. -/
def shownPath : Option String → String
  | some path => if path.isEmpty then namelessSource else path
  | none => namelessSource

namespace Diagnosis

def report (source : List Char) (path : Option String) (place : Location) (reason : Reason)
    (message : String) (label : Option String) : Diagnosis where
  reason := reason
  message := message
  line := place.line
  column := place.column
  offset := place.offset
  excerpt := Excerpt.render source ⟨place.offset, place.line, place.column⟩ Excerpt.defaultContext
  path := path
  label := label

def ofFailure (source : List Char) (path : Option String) (f : Failure) : Diagnosis :=
  report source path f.place f.fault.reason f.fault.message f.fault.label?

def location (d : Diagnosis) : String := s!"{shownPath d.path}:{d.line}:{d.column}"

/-- The one-line message, with the excerpt below it if there is one. -/
def text (d : Diagnosis) : String :=
  let header := d.location ++ ": " ++ d.message
  if d.excerpt.isEmpty then header else header ++ "\n" ++ d.excerpt

def brief (d : Diagnosis) : String :=
  s!"<OpalSyntaxError {d.reason.code} at {d.line}:{d.column}>"

end Diagnosis

end SceneMarkup
