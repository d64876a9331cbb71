import SceneMarkup.CommandLine.Job
import SceneMarkup.Log.Registry

/-! # Transcripts and complaints

A transcript is what carrying out a job leaves: the texts of both streams, the disk, the servers
that ran, and the ending. An interrupt cuts the job at its first output or ends its server. A
complaint says why a job is broken off.
-/

namespace SceneMarkup.CommandLine

inductive Interrupt where
  | firstOutput
  | server
  deriving DecidableEq, Repr

structure Transcript where
  out : String
  err : String
  disk : Disk
  services : List Service
  ending : Ending

namespace Job

def writesOut : Output → Bool
  | .out _ => true
  | _ => false

def runsServer : Output → Bool
  | .run _ => true
  | _ => false

/-- The job cut before its first output, with what is done instead; a job without output is not
cut. -/
def cut (j : Job) (instead : Job) : Job :=
  if j.outputs.any writesOut then
    ⟨j.outputs.takeWhile (!writesOut ·) ++ instead.outputs, instead.ending⟩
  else j

/-- A command that is interrupted says so. -/
def aborted : Job := ⟨[.out "\nAborted.\n"], .exit 130⟩

def interrupted (j : Job) : Option Interrupt → Job
  | none => j
  | some .firstOutput => j.cut aborted
  | some .server =>
      if j.outputs.any runsServer then
        { j with outputs := j.outputs ++ [.out "\nShutting down...\n"] }
      else j

/-- A text that is written before any command runs; an interrupt breaks it off. -/
def notice (text : String) : Option Interrupt → Job
  | some .firstOutput => ⟨[], .fault .interrupted⟩
  | _ => ⟨[.out text], .exit 0⟩

def step (registry : Log.Registry) (time : Log.Moment) (t : Transcript) : Output → Transcript
  | .out text => { t with out := t.out ++ text }
  | .err text => { t with err := t.err ++ text }
  | .log record => { t with err := t.err ++ Log.linesOf (registry.deliver time record) }
  | .store disk => { t with disk := disk }
  | .run service => { t with services := t.services ++ [service] }

def perform (j : Job) (registry : Log.Registry) (time : Log.Moment) (disk : Disk) : Transcript :=
  j.outputs.foldl (step registry time) ⟨"", "", disk, [], j.ending⟩

end Job

structure Surroundings where
  disk : Disk
  /-- What the settings file of the working directory defines, if there is one. -/
  file : Option Setting.Definitions
  environment : List (String × String)
  /-- Whether both streams are shown on a terminal. -/
  terminal : Bool
  /-- The time of day, the same for the whole run. -/
  clock : Log.Moment
  interrupt : Option Interrupt
  room : Document.Room
  limits : Setting.Limits

def runningRecord (c : Command) : Log.Record where
  level := .debug
  logger := Log.commandLogger
  message := "Running command"
  context := [("command", .text c.name)]
  cause := none

/-- The job of an invocation, and the loggers as it configures them. -/
def Invocation.job (i : Invocation) (d : Defaults) (s : Surroundings) : Job × Log.Registry :=
  match Log.Registry.empty.configure s.room.containers s.terminal i.logLevel i.logFormat true with
  | .error unknown => (⟨[], .fault (.level unknown)⟩, .empty)
  | .ok registry => match i.command with
    | none => (.notice (mainGrammar d).help s.interrupt, registry)
    | some c =>
        let j := (c.job s.disk s.terminal s.room).interrupted s.interrupt
        ({ j with outputs := .log (runningRecord c) :: j.outputs }, registry)

def Stop.job (interrupt : Option Interrupt) : Stop → Job
  | .misuse text => ⟨[.err text], .exit 2⟩
  | .answer text => .notice text interrupt

/-- What a command line asks for under the defaults of its surroundings; if it does not get that
far, what is done instead. -/
def invocationOf (s : Surroundings) (args : List String) : Except Job (Defaults × Invocation) :=
  match Settings.ofProject s.limits s.file s.environment with
  | .error m => .error ⟨[], .fault (.settings m)⟩
  | .ok settings => match Defaults.ofSettings settings with
    | .error m => .error ⟨[], .fault (.settings m)⟩
    | .ok d => match Invocation.read d args with
      | .error stop => .error (stop.job s.interrupt)
      | .ok i => .ok (d, i)

def pathsOf (s : Surroundings) (args : List String) : List Path :=
  match invocationOf s args with
  | .ok (_, ⟨_, _, some c⟩) => c.paths
  | _ => []

def jobOf (s : Surroundings) (args : List String) : Job × Log.Registry :=
  match invocationOf s args with
  | .error j => (j, .empty)
  | .ok (d, i) => i.job d s

def run (s : Surroundings) (args : List String) : Transcript :=
  let (j, registry) := jobOf s args
  j.perform registry s.clock s.disk

end SceneMarkup.CommandLine

namespace SceneMarkup

def Disk.Fault.message : Disk.Fault → String
  | notFound => "no such file or directory"
  | isDirectory => "a directory stands where a file is needed"
  | notDirectory => "a file stands where a directory is needed"
  | alreadyExists => "the file exists"
  | undecodable => "the file is not UTF-8 text"
  | nullInName => "a path holds a null character"
  | nameTooLong => "a path is too long"
  | tooManyLinks => "a link leads to too many others"

def Setting.Misuse.message : Setting.Misuse → String
  | layerWithoutEntries => "the settings are not a table"
  | blockedStep | blockedEntry => "a setting lies below a value that is not a table"
  | tooDeep => "the settings nest too deeply"
  | grownTable => "a table grew while it was merged"
  | infiniteInteger => "an infinite setting stands where an integer is needed"
  | unset key => "setting " ++ key ++ " is missing"

namespace CommandLine

def Fault.message : Fault → String
  | disk f | build (.disk f) => f.message
  | build .noRoom => "the build cache has no room"
  | settings m => m.message
  | level unknown => unknown.message
  | noPath => "a setting that names a file is no path"
  | noAddress => "the setting that names another server is no address"
  | unwritable _ => "the document nests too deeply to be written"
  | interrupted => "interrupted"

def complaint (message : String) : String := "error: " ++ message ++ "\n"

/-- What an ending adds to the error stream, and the exit code. -/
def Ending.report : Ending → String × Nat
  | .exit code => ("", code)
  | .fault f => (complaint f.message, 1)

end CommandLine

end SceneMarkup
