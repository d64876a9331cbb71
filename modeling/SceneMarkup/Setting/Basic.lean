import SceneMarkup.Json.Reader
import SceneMarkup.Number.Literal
import SceneMarkup.Setting.Table
import SceneMarkup.Text.Lowercase

/-! # Settings

Settings are layers together with the table they amount to. A read computes that table when it is
missing and keeps it; every write drops it.
-/

namespace SceneMarkup

/-- What the host of settings allows. -/
structure Setting.Limits where
  /-- The levels of values inside one another for which the stack has room when layers are
  copied. -/
  levels : Nat
  /-- How the texts of variables are read as JSON. -/
  dialect : Json.Dialect

/-- Layers, oldest first, and their merged table while it is up to date. -/
structure Settings where
  limits : Setting.Limits
  layers : List Setting.Layer
  view : Option (Entries Value)

namespace Settings

open Setting

def empty (limits : Limits) : Settings := ⟨limits, [], none⟩

def addLayer (s : Settings) (name : String) (data : Value) (priority : Int) : Settings :=
  { s with layers := s.layers ++ [⟨name, data, priority⟩], view := none }

/-- Settings that start from a table of defaults. -/
def ofDefaults (limits : Limits) (defaults : Value) : Settings :=
  (empty limits).addLayer "defaults" defaults 0

section Reading

def ask {α : Type} (s : Settings) (question : Entries Value → Except Misuse α) :
    Except Misuse α × Settings :=
  match s.view with
  | some t => (question t, s)
  | none => match merged s.limits.levels s.layers with
    | .ok t => (question t, { s with view := some t })
    | .error m => (.error m, s)

def valueAt (key : String) (default : Value) (t : Entries Value) : Value :=
  (find? (steps key) (.table t)).getD default

/-- The integer that a value stands for: numbers lose their fraction, texts are read. -/
def integerOf (default : Value) : Value → Except Misuse Value
  | .bool b => .ok (.integer (if b then 1 else 0))
  | .integer i => .ok (.integer i)
  | .binary (.infinite _) => .error .infiniteInteger
  | .binary x => .ok ((x.truncate?.map .integer).getD default)
  | .text s => .ok (((Number.readInt s).map .integer).getD default)
  | _ => .ok default

def trueWords : List String := ["true", "yes", "1"]

def flagOf : Value → Bool
  | .text s => trueWords.contains (Text.lower s)
  | v => v.truthy

def isNull : Value → Bool
  | .null => true
  | _ => false

def get (s : Settings) (key : String) (default : Value) : Except Misuse Value × Settings :=
  s.ask fun t => .ok (valueAt key default t)

def getInt (s : Settings) (key : String) (default : Value) : Except Misuse Value × Settings :=
  s.ask fun t => integerOf default (valueAt key default t)

def getBool (s : Settings) (key : String) (default : Value) : Except Misuse Bool × Settings :=
  s.ask fun t => .ok (flagOf (valueAt key default t))

/-- Whether something other than null is bound to a key. -/
def has (s : Settings) (key : String) : Except Misuse Bool × Settings :=
  s.ask fun t => .ok (!isNull (valueAt key .null t))

/-- The value bound to a key that has to be set. -/
def item (s : Settings) (key : String) : Except Misuse Value × Settings :=
  s.ask fun t =>
    let v := valueAt key .null t
    if isNull v then .error (.unset key) else .ok v

/-- The table bound to a key; empty when there is none. -/
def part (s : Settings) (key : String) : Except Misuse (Entries Value) × Settings :=
  s.ask fun t => match valueAt key .null t with
    | .table es => .ok es
    | _ => .ok []

def all (s : Settings) : Except Misuse (Entries Value) × Settings := s.ask .ok

end Reading

section Writing

def runtimeName : String := "runtime"

def runtimePriority : Int := 1000

/-- Set a key in the first layer of a name; `none` when there is no such layer. -/
def assignIn (name : String) (path : List String) (v : Value) :
    List Layer → Option (Except Misuse (List Layer))
  | [] => none
  | l :: ls =>
      if l.name = name then
        some <| match assign v path l.data with
          | .ok data => .ok ({ l with data } :: ls)
          | .error m => .error m
      else (assignIn name path v ls).map fun r => r.map (l :: ·)

/-- Set a key at run time. A failed write may leave a new, empty layer behind. -/
def set (s : Settings) (key : String) (v : Value) : Except Misuse Unit × Settings :=
  let layers :=
    if s.layers.any (·.name == runtimeName) then s.layers
    else s.layers ++ [⟨runtimeName, .table [], runtimePriority⟩]
  match assignIn runtimeName (steps key) v layers with
  | some (.ok layers') => (.ok (), { s with layers := layers', view := none })
  | some (.error m) => (.error m, { s with layers })
  | none => (.ok (), { s with layers })

end Writing

end Settings

end SceneMarkup
