import SceneMarkup.CommandLine.Transcript
import SceneMarkup.Setting.File
import Std.Time.Zoned

/-! # The program

The outer layer of the command line. It looks at what the paths of a command lead to, runs the
command on what it saw, and carries out what the run wrote. A server needs a network to listen on;
this layer has none and says so.
-/

namespace SceneMarkup.Disk

def placeText (place : Place) : String := "/" ++ "/".intercalate place

/-- The places that a path passes on its way, the last one included. -/
def route (d : Disk) (p : Path) : List Place :=
  let next (place : Place) (name : String) : Place :=
    if name = ".." then place.dropLast else place ++ [name]
  (p.parts.foldl (fun places name => next (places.headD []) name :: places) [d.start p]).reverse

/-- The entries of a disk that lie otherwise, or not at all, on another. -/
def changesSince (d old : Disk) : List (Place × Entry) :=
  d.entries.flatMap fun (names, e) =>
    (names.filter fun place => old.at? place != some e).map (·, e)

end SceneMarkup.Disk

namespace SceneMarkup.Main

/-- What fits on the stack of the program, and into a JSON text. -/
def room : Document.Room := ⟨496, 254⟩

/-- The settings read integers of 64 bits from JSON texts. -/
def limits : Setting.Limits := ⟨496, ⟨1024, Json.isWord⟩⟩

def probe (place : Place) : IO (Option Disk.Entry) := do
  let path := (← IO.currentDir) / Disk.placeText place
  if !(← path.pathExists) then return none
  else if ← path.isDir then return some .directory
  else return some (.file (← IO.FS.readBinFile path).toList)

def survey (disk : Disk) (path : Path) : IO Disk :=
  (disk.route path).foldlM (fun d place => do
    if (d.at? place).isSome then return d
    match ← probe place with
    | some entry => return d.put place entry
    | none => return d) disk

def apply (change : Place × Disk.Entry) : IO Unit := do
  let path := Disk.placeText change.1
  match change.2 with
  | .directory => IO.FS.createDirAll path
  | .file bytes => IO.FS.writeBinFile path ⟨bytes.toArray⟩
  | .link _ | .device _ => return ()

def now : IO Log.Moment := do
  let t ← Std.Time.PlainDateTime.now
  return { year := t.year.toInt.toNat, month := t.month.toNat, day := t.day.toNat
           hour := t.hour.toNat, minute := t.minute.toNat, second := t.second.toNat
           microsecond := t.nanosecond.toNat / 1000 }

/-- The variables of the process, where the system shows them. -/
def environment : IO (List (String × String)) := do
  try return Setting.variablesIn (← IO.FS.readBinFile "/proc/self/environ").toList
  catch _ => return []

def definitions (disk : Disk) : Except String (Option Setting.Definitions) :=
  match disk.readText (Path.ofText Setting.fileName) with
  | .error .notFound => .ok none
  | .error f => .error f.message
  | .ok text => match Setting.Definitions.ofText? text with
    | some file => .ok (some file)
    | none => .error "the settings file cannot be read"

def carryOut (before : Disk) (t : CommandLine.Transcript) : IO UInt32 := do
  (t.disk.changesSince before).forM apply
  IO.print t.out
  IO.eprint t.err
  if !t.services.isEmpty then
    IO.eprint (CommandLine.complaint "there is no network to listen on")
  let (text, code) := t.ending.report
  IO.eprint text
  return code.toUInt32

end SceneMarkup.Main

open SceneMarkup Main in
def main (args : List String) : IO UInt32 := do
  let here := Path.ofText (← IO.currentDir).toString
  let disk ← survey (Disk.blank here.parts) (Path.ofText Setting.fileName)
  match definitions disk with
  | .error message =>
      IO.eprint (CommandLine.complaint message)
      return 1
  | .ok file =>
      let surroundings : CommandLine.Surroundings :=
        { disk := disk, file := file, environment := (← environment)
          terminal := (← (← IO.getStderr).isTty), clock := (← now), interrupt := none
          room := room, limits := limits }
      let disk ← (CommandLine.pathsOf surroundings args).foldlM survey disk
      carryOut disk (CommandLine.run { surroundings with disk := disk } args)
