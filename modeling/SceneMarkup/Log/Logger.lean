import SceneMarkup.Log.Handler

/-! # Loggers

A logger has a name, a level, a context that goes into every record, and a list of handlers. The
lists belong to a desk: loggers that share a list see each other's changes to it.
-/

namespace SceneMarkup.Log

/-- A logger; `list` is the number of its handler list at the desk. -/
structure Logger where
  name : String
  level : Level
  context : Entries Value
  list : Nat

structure Desk where
  handlers : Entries Handler
  lists : List (List String)

inductive Misuse where
  | takenName
  | absentHandler
  deriving DecidableEq, Repr

namespace Desk

def empty : Desk := ⟨[], []⟩

/-- A name that no handler has: it is longer than the names there are. -/
def freshName (d : Desk) : String :=
  String.ofList (List.replicate ((d.handlers.map fun e => e.1.length).foldr max 0 + 1) '*')

def addNew (d : Desk) (h : Handler) : Desk × String :=
  ({ d with handlers := d.handlers.put d.freshName h }, d.freshName)

def addList (d : Desk) (names : List String) : Desk × Nat :=
  ({ d with lists := d.lists ++ [names] }, d.lists.length)

def listOf (d : Desk) (l : Logger) : List String := d.lists.getD l.list []

def setList (d : Desk) (l : Logger) (names : List String) : Desk :=
  { d with lists := d.lists.set l.list names }

/-- Add a handler to a logger's list; it may stand there more than once. -/
def addHandler (d : Desk) (l : Logger) (name : String) : Desk :=
  d.setList l (d.listOf l ++ [name])

def removeHandler (d : Desk) (l : Logger) (name : String) : Except Misuse Desk :=
  if (d.listOf l).contains name then .ok (d.setList l ((d.listOf l).erase name))
  else .error .absentHandler

def emission? (d : Desk) (time : Moment) (r : Record) (name : String) :
    Option (String × Emission) := do
  let h ← d.handlers.get? name
  let e ← h.emit time r
  return (name, e)

/-- What the handlers of a logger make of a record, in the order of their list. -/
def deliver (d : Desk) (l : Logger) (time : Moment) (r : Record) : List (String × Emission) :=
  (d.listOf l).filterMap (d.emission? time r)

end Desk

namespace Logger

def withLevel (l : Logger) (level : Level) : Logger := { l with level }

def withContext (l : Logger) (context : Entries Value) : Logger :=
  { l with context := l.context.update context }

/-- The name that a logger's context may not use when a logger is derived from it. -/
def ownName : String := "self"

def derive (l : Logger) (context : Entries Value) : Except Misuse Logger :=
  if context.has ownName then .error .takenName else .ok (l.withContext context)

def isEnabledFor (l : Logger) (level : Level) : Bool := decide (l.level ≤ level)

/-- Names that an event's own context may not use, because they are given otherwise. -/
def takenNames : List String := [ownName, "level", "message"]

/-- The entry of an event's own context that is not context but says what caused the event. -/
def causeName : String := "exception"

/-- The cause that an event's own context gives; null is none. -/
def causeIn (context : Entries Value) : Option Cause :=
  match context.get? causeName with
  | none | some .null => none
  | some v => some (.value v)

/-- The record for an event. A failure given with the event counts more than one in its context. -/
def record (l : Logger) (level : Level) (message : String) (context : Entries Value)
    (failure : Option Failure) : Except Misuse Record :=
  if context.any fun e => takenNames.contains e.1 then .error .takenName
  else .ok
    { level := level, logger := l.name, message := message
      context := l.context.update (context.erase causeName)
      cause := (failure.map .failure).or (causeIn context) }

def recordIfTaken (l : Logger) (level : Level) (message : String) (context : Entries Value)
    (failure : Option Failure) : Except Misuse (Option Record) := do
  let r ← l.record level message context failure
  return if l.level ≤ level then some r else none

/-- What the handlers of a logger make of an event. -/
def log (l : Logger) (d : Desk) (time : Moment) (level : Level) (message : String)
    (context : Entries Value) (failure : Option Failure) :
    Except Misuse (List (String × Emission)) := do
  match ← l.recordIfTaken level message context failure with
  | some r => return d.deliver l time r
  | none => return []

/-- Log an error while it is handled; the context may not name another cause. -/
def logCaught (l : Logger) (d : Desk) (time : Moment) (message : String) (context : Entries Value)
    (failure : Option Failure) : Except Misuse (List (String × Emission)) :=
  if context.has causeName then .error .takenName
  else l.log d time .error message context failure

end Logger

end SceneMarkup.Log
