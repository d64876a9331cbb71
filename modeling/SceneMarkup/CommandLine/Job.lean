import SceneMarkup.CommandLine.Invocation
import SceneMarkup.Document.Interchange
import SceneMarkup.Document.Outline
import SceneMarkup.Server.Basic
import SceneMarkup.Terminal.Report

/-! # Jobs

A job is what a command does: what it writes, logs and stores, in order, and how it ends.
-/

namespace SceneMarkup.CommandLine

structure Service where
  host : Value
  tcpPort : Value
  entry : Value
  server : Server

inductive Output where
  | out (text : String)
  | err (text : String)
  | log (record : Log.Record)
  | store (disk : Disk)
  | run (service : Service)

inductive Fault where
  | disk (fault : Disk.Fault)
  | build (fault : Build.Fault)
  | settings (misuse : Setting.Misuse)
  | level (unknown : Log.Level.Unknown)
  /-- A value that is no path stands where a path is needed. -/
  | noPath
  /-- A value that is no text stands where an address is needed. -/
  | noAddress
  /-- A document nests too deeply to be written. -/
  | unwritable (reason : Document.Unwritable)
  | interrupted

inductive Ending where
  | exit (code : Nat)
  | fault (f : Fault)

structure Job where
  outputs : List Output
  ending : Ending

def pathOf? : Value → Option Path
  | .text s => some (Path.ofText s)
  | .path p => some p
  | _ => none

def absentText (p : Path) : String := "Error: file not found: " ++ p.text ++ "\n"

def absent (outputs : List Output) (p : Path) : Job :=
  ⟨outputs ++ [.err (absentText p)], .exit 2⟩

section Parsing

variable (disk : Disk) (colors : Bool)

def parseJob (room : Document.Room) (file : String) (json pretty : Bool) : Job :=
  let path := Path.ofText file
  match disk.readText path with
  | .error .notFound => absent [] path
  | .error f => ⟨[], .fault (.disk f)⟩
  | .ok source => match Document.parseLogged source (some file) with
    | (.error d, records) =>
        ⟨records.map .log ++ [.err (Terminal.diagnosisReport colors d)], .exit 1⟩
    | (.ok document, records) =>
        if json then match document.jsonText room pretty with
          | .ok text => ⟨records.map .log ++ [.out (text ++ "\n")], .exit 0⟩
          | .error reason => ⟨records.map .log, .fault (.unwritable reason)⟩
        else ⟨records.map .log ++ [.out (document.outline ++ "\n")], .exit 0⟩

/-- What checking a file writes, and whether the file is in order. -/
def checkFile (file : String) : Except Fault (List Output × Bool) :=
  match disk.readText (Path.ofText file) with
  | .error .notFound => .ok ([.err ("error: file not found: " ++ file ++ "\n")], false)
  | .error f => .error (.disk f)
  | .ok source => match Document.parseLogged source (some file) with
    | (.error d, records) =>
        .ok (records.map .log ++ [.err (Terminal.diagnosisReport colors d)], false)
    | (.ok _, records) => .ok (records.map .log ++ [.out ("ok " ++ file ++ "\n")], true)

/-- Check files one after the other: the outputs, and how many are not in order or why the check
was broken off. -/
def checkFiles : List String → List Output × Except Fault Nat
  | [] => ([], .ok 0)
  | file :: files => match checkFile disk colors file with
    | .error f => ([], .error f)
    | .ok (outputs, good) =>
        let (more, failures) := checkFiles files
        (outputs ++ more, failures.map (· + if good then 0 else 1))

def checkJob (files : List String) : Job :=
  match checkFiles disk colors files with
  | (outputs, .error f) => ⟨outputs, .fault f⟩
  | (outputs, .ok failures) =>
      let summary : List Output :=
        if files.length > 1 then
          [.out s!"{files.length - failures} ok, {failures} failed\n"]
        else []
      ⟨outputs ++ summary, .exit (if failures = 0 then 0 else 1)⟩

end Parsing

section Building

/-- The root of the project: the working directory. -/
def workRoot (disk : Disk) : Path := ⟨.slash, disk.here⟩

def failedOutputs (colors : Bool) (errors : List Build.Message) : List Output :=
  errors.map (fun m => .err (Terminal.messageReport colors m)) ++
    [.out s!"Build failed with {errors.length} error(s)\n"]

def buildJob (disk : Disk) (colors : Bool) (entry output : Value) : Job :=
  let started : Output := .out ("Building " ++ entry.shown ++ "...\n")
  let project := Build.Project.ofRoot (workRoot disk) Build.defaultCapacity
  match pathOf? entry with
  | none => ⟨[started], .fault .noPath⟩
  | some source =>
      let (step, disk', usable) := match pathOf? output with
        | some outfile =>
            let (step, disk') := project.build disk source outfile
            (step, disk', true)
        | none => (project.load disk source, disk, false)
      let outputs := started :: step.records.map .log ++ [.store disk']
      match step.result with
      | .error (.disk .notFound) => absent outputs (project.resolve source)
      | .error f => ⟨outputs, .fault (.build f)⟩
      | .ok o =>
          if !o.isOk then ⟨outputs ++ failedOutputs colors o.errors, .exit 1⟩
          else if !usable then ⟨outputs, .fault .noPath⟩
          else ⟨outputs ++ [.out ("✓ Build complete! Output: " ++ output.shown ++ "\n")], .exit 0⟩

end Building

section Serving

/-- The address of a backend; values that count as false mean none. -/
def backendOf (v : Value) : Except Fault (Option String) :=
  if !v.truthy then .ok none
  else match v with
    | .text s => .ok (some s)
    | _ => .error .noAddress

def noEntryOutputs (entry : Value) : List Output :=
  [.err ("Error: entry file not found: " ++ entry.shown ++ "\n"),
    .err "Make sure you're in an Opal project directory\n"]

def greeting (host tcpPort entry backend : Value) : List Output :=
  [.out "Starting Opal development server...\n",
    .out ("  URL: http://" ++ host.shown ++ ":" ++ tcpPort.shown ++ "\n"),
    .out ("  Entry: " ++ entry.shown ++ "\n")] ++
    (if backend.truthy then [.out ("  Upstream: " ++ backend.shown ++ "\n")] else []) ++
    [.out "\n"]

def devJob (disk : Disk) (host tcpPort entry backend : Value) : Job :=
  match pathOf? entry with
  | none => ⟨[], .fault .noPath⟩
  | some p => match disk.doesExist ((workRoot disk).join p) with
    | .error f => ⟨[], .fault (.disk f)⟩
    | .ok false => ⟨noEntryOutputs entry, .exit 1⟩
    | .ok true => match backendOf backend with
      | .error f => ⟨greeting host tcpPort entry backend, .fault f⟩
      | .ok address =>
          let server := Server.ofRoot (workRoot disk) entry.shown address
          ⟨greeting host tcpPort entry backend ++
            [.log (server.runningRecord host.shown tcpPort.shown),
              .run ⟨host, tcpPort, entry, server⟩],
            .exit 0⟩

end Serving

def Command.paths : Command → List Path
  | .parse file _ _ => [Path.ofText file]
  | .check files => files.map Path.ofText
  | .build entry output => [entry, output].filterMap pathOf?
  | .dev _ _ entry _ => [entry].filterMap pathOf?

def Command.job (disk : Disk) (colors : Bool) (room : Document.Room) : Command → Job
  | .parse file json pretty => parseJob disk colors room file json pretty
  | .check files => checkJob disk colors files
  | .build entry output => buildJob disk colors entry output
  | .dev host tcpPort entry backend => devJob disk host tcpPort entry backend

end SceneMarkup.CommandLine
