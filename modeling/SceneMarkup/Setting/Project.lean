import SceneMarkup.Setting.Environment

/-! # Project settings

A project's settings are the defaults, what its settings file says and what the environment
overrides.
-/

namespace SceneMarkup.Setting

def fileName : String := "opal.config.py"

inductive Definitions where
  /-- The file names its settings as a whole. -/
  | whole (data : Value)
  /-- Every top-level name of the file with its value. -/
  | names (globals : Entries Value)
  deriving Repr

def wholeName : String := "config"

/-- The data of a settings file: the settings as a whole if they are named, else all public
names. -/
def Definitions.data : Definitions → Value
  | .whole data => data
  | .names globals => match globals.get? wholeName with
    | some v => v
    | none => .table (globals.filter fun e => !e.1.startsWith "_")

/-- The settings of a project that says nothing. -/
def standard : Value := .table [
  ("build", .table [("entry", .text "src/index.opal"), ("outfile", .text "dist/index.js")]),
  ("dev", .table [("host", .text "127.0.0.1"), ("port", .integer 8080), ("upstream", .null)]),
  ("log", .table [("level", .text "info"), ("format", .text "text")])]

end SceneMarkup.Setting

namespace SceneMarkup.Settings

def addFile (s : Settings) (file : Setting.Definitions) : Settings :=
  s.addLayer ("file:" ++ Setting.fileName) file.data 10

def ofProject (limits : Setting.Limits) (file : Option Setting.Definitions)
    (environment : List (String × String)) : Except Setting.Misuse Settings :=
  let s := ofDefaults limits Setting.standard
  (file.elim s s.addFile).addEnvironment environment

end SceneMarkup.Settings
