import SceneMarkup.Text.Lines
import SceneMarkup.Value.Basic

/-! # Nested tables and layers

A dotted key names a path through nested tables. Overlaying merges tables entry by entry; any other
value replaces what lies below it. A layer is named data with a priority. Layers are merged from the
lowest priority to the highest; of equal priorities the one that came later covers the other.
-/

namespace SceneMarkup.Setting

inductive Misuse where
  /-- A layer's data is no table. -/
  | layerWithoutEntries
  /-- A layer's data nests too deeply to be merged. -/
  | tooDeep
  /-- A table grew while its entries were laid over another one. -/
  | grownTable
  /-- A step before the last leads through a value that is no table. -/
  | blockedStep
  /-- The last step would set an entry of a value that is no table. -/
  | blockedEntry
  /-- An infinite value has no integer part. -/
  | infiniteInteger
  /-- Nothing but null is bound to the key. -/
  | unset (key : String)
  deriving DecidableEq, Repr

/-- The steps of a dotted key; there is always at least one. -/
def steps (key : String) : List String :=
  (Text.splitOnP (· == '.') key.toList).map String.ofList

def find? : List String → Value → Option Value
  | [], v => some v
  | p :: ps, .table es => (Entries.get? es p).bind (find? ps)
  | _ :: _, _ => none

/-- Set the value at a path, creating tables on the way. -/
def assign (v : Value) : List String → Value → Except Misuse Value
  | [], _ => .ok v
  | [p], .table es => .ok (.table (Entries.put es p v))
  | [_], _ => .error .blockedEntry
  | p :: q :: ps, .table es =>
      match assign v (q :: ps) ((Entries.get? es p).getD (.table [])) with
      | .ok inner => .ok (.table (Entries.put es p inner))
      | .error m => .error m
  | _ :: _ :: _, _ => .error .blockedStep

mutual

/-- Lay a value over another: tables merge, anything else hides what it covers. -/
def overlay : Value → Value → Value
  | .table base, .table upper => .table (overlayEntries base upper)
  | _, v => v

def overlayEntries (base : Entries Value) : List (String × Value) → Entries Value
  | [] => base
  | (k, v) :: rest =>
      let v' := match Entries.get? base k with
        | some b => overlay b v
        | none => v
      overlayEntries (Entries.put base k v') rest

end

/-! ### Layers -/

structure Layer where
  name : String
  data : Value
  priority : Int
  deriving Repr

/-- The layers in the order in which they cover each other. -/
def ranked (layers : List Layer) : List Layer :=
  layers.mergeSort fun a b => a.priority ≤ b.priority

/-- Lay a layer's data over a table. The data is copied first, and there is room for so many levels
of values inside one another. -/
def addLayer (levels : Nat) (merged : Entries Value) (layer : Layer) :
    Except Misuse (Entries Value) :=
  if layer.data.levels > levels then .error .tooDeep
  else match layer.data with
  | .table es => .ok (overlayEntries merged es)
  | _ => .error .layerWithoutEntries

/-- The table that layers amount to. -/
def merged (levels : Nat) (layers : List Layer) : Except Misuse (Entries Value) :=
  (ranked layers).foldlM (addLayer levels) []

end SceneMarkup.Setting
