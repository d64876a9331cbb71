import SceneMarkup.Setting.Basic
import SceneMarkup.Text.Utf8

/-! # Settings from the environment

A variable whose name starts with the common prefix overrides the setting whose key is the rest of
the name in lower case, with dots for underscores. Its text is read as the most specific value it
can denote.
-/

namespace SceneMarkup.Setting

/-- How the names of variables that hold settings start. -/
def variablePrefix : String := "OPAL_"

def keyOfVariable? (name : String) : Option String :=
  let start := variablePrefix.toList
  if start.isPrefixOf name.toList then
    let lowered := Text.lower (String.ofList (name.toList.drop start.length))
    some (String.ofList (lowered.toList.map fun c => if c == '_' then '.' else c))
  else none

/-- The value that the text of a variable denotes. -/
def valueOfText (dialect : Json.Dialect) (s : String) : Value :=
  let word := Text.lower s
  if word = "true" ∨ word = "yes" then .bool true
  else if word = "false" ∨ word = "no" then .bool false
  else match Number.readInt s with
    | some i => .integer i
    | none => match Number.readBinary64 s with
      | some x => .binary x
      | none =>
          if s.startsWith "\x7b" || s.startsWith "[" then
            match Json.read? dialect s with
            | some j => .ofJson j
            | none => .text s
          else .text s

/-- The variables in a block of `name=value` texts, each ended by a null byte. -/
def variablesIn (block : List UInt8) : List (String × String) :=
  (Text.splitOnP (· == 0) block).filterMap fun bytes => do
    let cs ← Text.Utf8.decode? bytes
    let '=' :: value := cs.dropWhile (· != '=') | none
    return (String.ofList (cs.takeWhile (· != '=')), String.ofList value)

/-- The overrides of an environment by dotted key; of equal keys the later variable wins. -/
def overrides (dialect : Json.Dialect) (environment : List (String × String)) : Entries Value :=
  Entries.ofList <| (Entries.ofList environment).filterMap fun (name, text) =>
    (keyOfVariable? name).map (·, valueOfText dialect text)

/-- The nested table that dotted keys amount to. -/
def nest (flat : Entries Value) : Except Misuse Value :=
  flat.foldlM (fun t e => assign e.2 (steps e.1) t) (.table [])

end SceneMarkup.Setting

namespace SceneMarkup

/-- Add the overrides of an environment as a layer, unless there are none. -/
def Settings.addEnvironment (s : Settings) (environment : List (String × String)) :
    Except Setting.Misuse Settings :=
  match Setting.overrides s.limits.dialect environment with
  | [] => .ok s
  | flat => match Setting.nest flat with
    | .ok t => .ok (s.addLayer "env" t 100)
    | .error m => .error m

end SceneMarkup
