import SceneMarkup.Value.Basic

/-! # Command line grammars

A grammar lists the options of a command and the one positional argument it may have.
-/

namespace SceneMarkup.CommandLine

inductive OptionEffect where
  | help
  | version
  /-- Set the target to true. -/
  | flag
  /-- Set the target to one of the given words, or to any text if none are given. -/
  | word (choices : List String)
  | number
  deriving DecidableEq, Repr

structure OptionRule where
  names : List String
  target : String
  effect : OptionEffect
  deriving DecidableEq, Repr

def OptionRule.takesValue (o : OptionRule) : Bool :=
  match o.effect with
  | .word _ | .number => true
  | _ => false

def OptionRule.shownName (o : OptionRule) : String := "/".intercalate o.names

inductive Arity where
  | one
  | atMostOne
  | atLeastOne
  /-- The name of a command and everything after it. -/
  | command (choices : List String)
  deriving DecidableEq, Repr

def Arity.isRequired : Arity → Bool
  | one | atLeastOne => true
  | _ => false

structure PositionalRule where
  target : String
  arity : Arity
  deriving DecidableEq, Repr

structure Grammar where
  program : String
  usage : String
  help : String
  options : List OptionRule
  positional : Option PositionalRule
  /-- The values of targets that no word sets. -/
  defaults : Entries Value

namespace Grammar

def names (g : Grammar) : List (String × OptionRule) :=
  g.options.flatMap fun o => o.names.map (·, o)

def option? (g : Grammar) (name : String) : Option OptionRule := g.names.lookup name

end Grammar

end SceneMarkup.CommandLine
