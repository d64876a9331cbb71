import SceneMarkup.Log.Layout

/-! # Handlers

A handler takes the records from its level upward. What goes wrong inside a handler is dropped, so
that logging never breaks the work that is logged.
-/

namespace SceneMarkup.Log

/-- Where a handler puts records: it keeps them, writes lines, or fails. JSON is written down to a
depth. -/
inductive Outlet where
  | memory
  | text (layout : TextLayout)
  | json (depth : Nat)
  | failing
  deriving DecidableEq, Repr

structure Handler where
  level : Level
  outlet : Outlet
  deriving DecidableEq, Repr

inductive Emission where
  | kept (r : Record)
  | line (text : String)

def Outlet.write? (o : Outlet) (time : Moment) (r : Record) : Option Emission :=
  match o with
  | .memory => some (.kept r)
  | .text layout =>
      match r.toText layout time with
      | .ok line => some (.line (line ++ "\n"))
      | .error _ => none
  | .json depth => (r.jsonText? depth time).map fun line => .line (line ++ "\n")
  | .failing => none

def Handler.emit (h : Handler) (time : Moment) (r : Record) : Option Emission :=
  if h.level ≤ r.level then h.outlet.write? time r else none

def linesOf (emissions : List Emission) : String :=
  String.join (emissions.filterMap fun
    | .line text => some text
    | .kept _ => none)

end SceneMarkup.Log
