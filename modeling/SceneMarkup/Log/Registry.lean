import SceneMarkup.Log.Logger

/-! # The registry of loggers

Loggers are found by name. They share the list of handlers of the root logger, so that one
configuration governs them all: it replaces what stands on the list, and not the list. A new logger
takes the level of the root.
-/

namespace SceneMarkup.Log

/-- The named loggers, in the order in which they came, and the desk with their handlers. -/
structure Registry where
  desk : Desk
  loggers : Entries Logger

namespace Registry

def rootName : String := "opal"

def empty : Registry := ⟨.empty, []⟩

def root? (r : Registry) : Option Logger := r.loggers.get? rootName

/-- The root logger, and the registry with it. It is created when it is absent: at a list of its
own, with one text handler for everything. -/
def withRoot (r : Registry) (terminal : Bool) : Logger × Registry :=
  match r.root? with
  | some root => (root, r)
  | none =>
      let (desk, name) := r.desk.addNew ⟨.debug, .text (.standard terminal)⟩
      let (desk, list) := desk.addList [name]
      let root : Logger := ⟨rootName, .info, [], list⟩
      (root, ⟨desk, r.loggers.put rootName root⟩)

def ensureRoot (r : Registry) (terminal : Bool) : Registry := (r.withRoot terminal).2

/-- Find or create a logger; a level that is given is set in both cases. -/
def getLogger (r : Registry) (terminal : Bool) (name : String) (level : Option Level) :
    Registry :=
  let (root, r) := r.withRoot terminal
  match r.loggers.get? name, level with
  | none, level =>
      { r with loggers := r.loggers.put name ⟨name, level.getD root.level, [], root.list⟩ }
  | some l, some level => { r with loggers := r.loggers.put name (l.withLevel level) }
  | some _, none => r

def setLevels (r : Registry) (level : Level) : Registry :=
  { r with loggers := r.loggers.map fun e => (e.1, e.2.withLevel level) }

def reset (r : Registry) (terminal : Bool) (h : Handler) : Registry :=
  let (root, r) := r.withRoot terminal
  let (desk, name) := r.desk.addNew h
  { r with desk := desk.setList root [name] }.setLevels h.level

/-- What the handler of a configuration writes: every format but JSON is text. -/
def outletOf (format : Value) (depth : Nat) (colored : Bool) : Outlet :=
  match format with
  | .text "json" => .json depth
  | _ => .text (.standard colored)

def configure (r : Registry) (depth : Nat) (terminal : Bool) (level format : Value)
    (colors : Bool) : Except Level.Unknown Registry := do
  let level ← Level.parse level
  return r.reset terminal ⟨level, outletOf format depth (colors && terminal)⟩

def levels (r : Registry) : Entries Level := r.loggers.map fun e => (e.1, e.2.level)

/-- The handlers on the list of the root; without the root there are none yet. -/
def handlers (r : Registry) : List Handler :=
  match r.root? with
  | some root => (r.desk.listOf root).filterMap r.desk.handlers.get?
  | none => []

/-- The logger that a name stands for; one that is not registered logs like the root. -/
def loggerFor? (r : Registry) (name : String) : Option Logger := (r.loggers.get? name).or r.root?

/-- The record for an event of a logger. -/
def record (r : Registry) (name : String) (level : Level) (message : String)
    (context : Entries Value) : Except Misuse Record :=
  ((r.loggers.get? name).getD ⟨name, .info, [], 0⟩).record level message context none

def deliver (r : Registry) (time : Moment) (record : Record) : List Emission :=
  match r.loggerFor? record.logger with
  | some l => if l.level ≤ record.level then (r.desk.deliver l time record).map Prod.snd else []
  | none => []

end Registry

end SceneMarkup.Log
