import SceneMarkup.Catalogue
import SceneMarkup.CommandLine.Reading
import SceneMarkup.CommandLine.Usage
import SceneMarkup.Setting.Project

/-! # Invocations

The commands of the program and their grammars. What a command line leaves open is taken from the
settings; such values are not checked against the choices.
-/

namespace SceneMarkup.CommandLine

structure Defaults where
  logLevel : Value
  logFormat : Value
  entry : Value
  outfile : Value
  host : Value
  tcpPort : Value
  backend : Value
  deriving Repr

/-- Where the server listens unless the settings hold an integer. -/
def standardTcpPort : Int := 8080

def Defaults.ofSettings (s : Settings) : Except Setting.Misuse Defaults := do
  let logLevel ← (s.get "log.level" (.text "info")).1
  let logFormat ← (s.get "log.format" (.text "text")).1
  let entry ← (s.get "build.entry" .null).1
  let outfile ← (s.get "build.outfile" .null).1
  let host ← (s.get "dev.host" .null).1
  let tcpPort ← (s.getInt "dev.port" (.integer standardTcpPort)).1
  let backend ← (s.get "dev.upstream" .null).1
  return ⟨logLevel, logFormat, entry, outfile, host, tcpPort, backend⟩

inductive Command where
  | parse (file : String) (json pretty : Bool)
  | check (files : List String)
  | build (entry output : Value)
  | dev (host tcpPort entry backend : Value)
  deriving Repr

def Command.name : Command → String
  | parse .. => "parse"
  | check .. => "check"
  | build .. => "build"
  | dev .. => "dev"

structure Invocation where
  logLevel : Value
  logFormat : Value
  command : Option Command
  deriving Repr

section Grammars

def helpRule : OptionRule := ⟨["-h", "--help"], "help", .help⟩

def versionText : String := "Opal " ++ Catalogue.version ++ "\n"

def grammar (program : String) (usage details : List String) (options : List OptionRule)
    (positional : Option PositionalRule) (defaults : Entries Value) : Grammar where
  program := program
  usage := Usage.text usage
  help := Usage.text (usage ++ details)
  options := helpRule :: options
  positional := positional
  defaults := defaults

def commandNames : List String := ["parse", "check", "build", "dev"]

def mainGrammar (d : Defaults) : Grammar :=
  grammar Catalogue.packageName Usage.mainUsage Usage.mainDetails
    [⟨["-v", "--version"], "version", .version⟩,
      ⟨["--log-level"], "log_level", .word ["debug", "info", "warning", "error", "critical"]⟩,
      ⟨["--log-format"], "log_format", .word ["text", "json"]⟩]
    (some ⟨"command", .command commandNames⟩)
    [("log_level", d.logLevel), ("log_format", d.logFormat)]

def commandGrammar (d : Defaults) (name : String) : Grammar :=
  let program := Catalogue.packageName ++ " " ++ name
  match name with
  | "parse" => grammar program Usage.parseUsage Usage.parseDetails
      [⟨["--json"], "json", .flag⟩, ⟨["--pretty"], "pretty", .flag⟩] (some ⟨"file", .one⟩) []
  | "check" =>
      grammar program Usage.checkUsage Usage.checkDetails [] (some ⟨"files", .atLeastOne⟩) []
  | "build" => grammar program Usage.buildUsage Usage.buildDetails
      [⟨["--output"], "output", .word []⟩] (some ⟨"entry", .atMostOne⟩)
      [("entry", d.entry), ("output", d.outfile)]
  | _ => grammar program Usage.devUsage Usage.devDetails
      [⟨["--host"], "host", .word []⟩, ⟨["--port"], "port", .number⟩,
        ⟨["--entry"], "entry", .word []⟩, ⟨["--upstream"], "upstream", .word []⟩]
      none
      [("host", d.host), ("port", d.tcpPort), ("entry", d.entry), ("upstream", d.backend)]

end Grammars

section Values

variable (values : Entries Value)

def valueAt (target : String) : Value := (values.get? target).getD .null

def textAt (target : String) : String :=
  match valueAt values target with
  | .text s => s
  | _ => ""

def textsAt (target : String) : List String :=
  match valueAt values target with
  | .list xs => xs.filterMap fun
    | .text s => some s
    | _ => none
  | _ => []

def Command.ofValues (name : String) : Command :=
  match name with
  | "parse" =>
      .parse (textAt values "file") (valueAt values "json").truthy (valueAt values "pretty").truthy
  | "check" => .check (textsAt values "files")
  | "build" => .build (valueAt values "entry") (valueAt values "output")
  | _ => .dev (valueAt values "host") (valueAt values "port") (valueAt values "entry")
      (valueAt values "upstream")

end Values

/-- Read the words of a command, if there is one, with the words that are left over. -/
def readCommand (d : Defaults) (words : List String) :
    Except Stop (Option Command × List String) :=
  match words with
  | [] => .ok (none, [])
  | name :: args =>
      match (commandGrammar d name).read versionText args with
      | .ok r => .ok (some (.ofValues r.values name), r.extras)
      | .error stop => .error stop

/-- Read a command line. No word may be left over. -/
def Invocation.read (d : Defaults) (args : List String) : Except Stop Invocation :=
  let g := mainGrammar d
  match g.read versionText args with
  | .error stop => .error stop
  | .ok r => match readCommand d (textsAt r.values "command") with
    | .error stop => .error stop
    | .ok (command, extras) =>
        match r.extras ++ extras with
        | [] => .ok ⟨valueAt r.values "log_level", valueAt r.values "log_format", command⟩
        | left => .error (g.misuse ("unrecognized arguments: " ++ " ".intercalate left))

end SceneMarkup.CommandLine
