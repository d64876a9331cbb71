import SceneMarkup.Document.Traversal
import SceneMarkup.Json.Basic

/-! # Documents as JSON

Members that would be empty are left out, except the two lists of the document itself.
-/

namespace SceneMarkup

def AttributeValue.toJson : AttributeValue → Json
  | .text s => .string s
  | .present => .bool true

def optionalMember {α : Type} (key : String) (items : List α) (value : Json) :
    List (String × Json) :=
  if items.isEmpty then [] else [(key, value)]

def attributesToJson (attributes : Entries AttributeValue) : Json :=
  .object (attributes.map fun e => (e.1, e.2.toJson))

def Script.toJson (s : Script) : Json :=
  .object (optionalMember "attributes" s.attributes (attributesToJson s.attributes) ++
    [("source", .string s.source)])

mutual

def Fragment.toJson : Fragment → Json
  | .mk name attributes bindings children _ _ =>
      .object (("name", .string name) ::
        (optionalMember "attributes" attributes (attributesToJson attributes) ++
          optionalMember "bindings" bindings
            (.object (bindings.map fun e => (e.1, .string e.2))) ++
          optionalMember "children" children (.array (Fragment.allToJson children))))

def Fragment.allToJson : List Fragment → List Json
  | [] => []
  | f :: fs => f.toJson :: Fragment.allToJson fs

end

namespace Document

def toJson (d : Document) : Json :=
  .object [("scripts", .array (d.scripts.map Script.toJson)),
    ("fragments", .array (Fragment.allToJson d.fragments))]

inductive Unwritable where
  /-- The text would nest more deeply than JSON text may. -/
  | deepText
  /-- The document nests so deeply that it is not even turned into JSON. -/
  | deepDocument
  deriving DecidableEq, Repr

/-- How deeply documents may nest that become JSON. -/
structure Room where
  /-- The levels of fragments for which the stack of the program has room. -/
  levels : Nat
  /-- The containers that a JSON text may open inside one another. -/
  containers : Nat

/-- The JSON text of a document; one that is nested too deeply has none. -/
def jsonText (d : Document) (room : Room) (indented : Bool) : Except Unwritable String :=
  if Fragment.depthAll d.fragments > room.levels then .error .deepDocument
  else match d.toJson.write? room.containers indented with
    | some text => .ok text
    | none => .error .deepText

end Document

end SceneMarkup
