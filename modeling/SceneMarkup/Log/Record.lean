import SceneMarkup.Log.Level

/-! # Log records

A record says what happened, where and how severe it is, with values that give its context.
-/

namespace SceneMarkup.Log

/-- An error that is reported with a record: its kind, the kind's full name, and its message. -/
structure Failure where
  kind : String
  qualified : String
  message : String
  deriving DecidableEq, Repr

/-- The kinds whose full name is longer than the kind. -/
def qualifiedKind (kind : String) : String :=
  if kind = "OpalError" then "opal.engine.diagnostics.OpalError" else kind

/-- The failure with a kind and an argument; a missing key is shown in quotes. -/
def Failure.ofArgument (kind : String) (argument : Option String) : Failure where
  kind := kind
  qualified := qualifiedKind kind
  message := match argument with
    | none => ""
    | some text => if kind = "KeyError" then Text.Quoted.text text else text

/-- The line that reports a failure. -/
def Failure.line (f : Failure) : String :=
  if f.message.isEmpty then f.qualified ++ "\n" else f.qualified ++ ": " ++ f.message ++ "\n"

/-- What a record says of its cause: a failure, or a value that was given in place of one. -/
inductive Cause where
  | failure (f : Failure)
  | value (v : Value)
  deriving Repr

namespace Cause

def kind : Cause → String
  | failure f => f.kind
  | value v => v.kind

def message : Cause → String
  | failure f => f.message
  | value v => v.shown

/-- The failure that a line has to report. A value that counts as false needs none; for any other
value there is nothing to report it by. -/
def reported? : Cause → Except Unit (Option Failure)
  | failure f => .ok (some f)
  | value v => if v.truthy then .error () else .ok none

end Cause

structure Record where
  level : Level
  logger : String
  message : String
  context : Entries Value
  cause : Option Cause
  deriving Repr

def Record.reported? (r : Record) : Except Unit (Option Failure) :=
  match r.cause with
  | none => .ok none
  | some c => c.reported?

def parserLogger : String := "opal.parser"

def compilerLogger : String := "opal.compiler"

def bundlerLogger : String := "opal.bundler"

def serverLogger : String := "opal.server"

def commandLogger : String := "opal.cli"

/-- Time is not measured; every duration is zero. -/
def noTime : Value := .binary (.zero false)

end SceneMarkup.Log
