import SceneMarkup.Document.Traversal
import SceneMarkup.Text.Lines

/-! # Outlines

An outline shows every script with its number of lines, and every fragment on a line of its own,
indented by its depth.
-/

namespace SceneMarkup

def AttributeValue.shown (name : String) : AttributeValue → String
  | .present => name
  | .text s => name ++ "=\"" ++ s ++ "\""

/-- A binding as an outline shows it; one whose text is its name is shown as a shorthand. -/
def bindingShown (name source : String) : String :=
  if source = name then "\x7b" ++ name ++ "\x7d" else name ++ "=\x7b" ++ source ++ "\x7d"

def headline (name : String) (attributes : Entries AttributeValue) (bindings : Entries String) :
    String :=
  " ".intercalate
    (name :: attributes.map (fun e => e.2.shown e.1) ++ bindings.map fun e => bindingShown e.1 e.2)

namespace Document

def scriptLine (s : Script) : String :=
  let count := Text.printedLines false 0 s.source.toList
  "  " ++ headline "script" s.attributes [] ++ " (" ++ toString count ++ " lines)"

/-- The line for a fragment; roots are indented once. -/
def fragmentLine (level : Nat) (f : Fragment) : String :=
  String.ofList (List.replicate (2 * (level + 1)) ' ') ++ headline f.name f.attributes f.bindings

/-- The outline of a document, without a line end after it. -/
def outline (d : Document) : String :=
  "\n".intercalate
    ("scripts:" :: d.scripts.map scriptLine ++
      "fragments:" :: d.walkLevels.map fun (level, f) => fragmentLine level f)

end Document

end SceneMarkup
