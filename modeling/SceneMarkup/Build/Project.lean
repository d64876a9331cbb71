import SceneMarkup.Build.Cache
import SceneMarkup.Build.Message
import SceneMarkup.Disk.Basic
import SceneMarkup.Module.Basic

/-! # Projects

A project loads source files below its root and compiles them. A module is kept under the file's
path and the digest of its source, so that an edited file is compiled anew.
-/

namespace SceneMarkup.Build

/-- Where a module is kept: the path of the file and the digest of its source. -/
structure Key where
  path : String
  digest : String
  deriving DecidableEq, Repr

structure Project where
  root : Path
  cache : Cache Key Module

structure Outcome where
  contents : Option String := none
  errors : List Message := []
  warnings : List Message := []
  deriving DecidableEq, Repr

def Outcome.isOk (o : Outcome) : Bool := o.errors.isEmpty

/-- Why a load has no outcome. -/
inductive Fault where
  | disk (fault : Disk.Fault)
  /-- The cache never has room. -/
  | noRoom
  deriving DecidableEq, Repr

/-- How many modules a project keeps unless told otherwise. -/
def defaultCapacity : Int := 64

/-- Whether a path names a source file: the extension stands at the end or before a last newline. -/
def isSourcePath (path : String) : Bool :=
  let ending := ".opal".toList
  ending.isSuffixOf path.toList || (ending ++ ['\n']).isSuffixOf path.toList

namespace Project

def ofRoot (root : Path) (capacity : Int) : Project := ⟨root, .empty capacity⟩

section Paths

/-- A path taken relative to the root. -/
def resolve (project : Project) (p : Path) : Path := project.root.join p

/-- How a path is shown: relative to the root where possible. -/
def displayPath (project : Project) (p : Path) : String :=
  let resolved := project.resolve p
  ((resolved.below? project.root).getD resolved).text

end Paths

structure Step (α : Type) where
  result : α
  project : Project
  records : List Log.Record

section Loading

private def record (level : Log.Level) (message : String) (context : Entries Value) :
    Log.Record := ⟨level, Log.bundlerLogger, message, context, none⟩

def absentRecord (shown : String) : Log.Record :=
  record .error "File not found" [("path", .text shown)]

def hitRecord (shown : String) : Log.Record :=
  record .debug "Cache hit" [("path", .text shown)]

def refusedRecord (shown : String) (d : Diagnosis) : Log.Record :=
  record .error "Syntax error" [("path", .text shown), ("reason", .text d.reason.code),
    ("line", .integer d.line), ("column", .integer d.column)]

def absentMessage (shown : String) : Message :=
  { text := "File not found: " ++ shown, path := some shown }

def loadSource (project : Project) (resolved : Path) (shown source : String) :
    Step (Except Fault Outcome) :=
  let key : Key := ⟨resolved.text, Digest.Md5.digest (Text.Utf8.encode source.toList)⟩
  match project.cache.get? key with
  | (some m, cache) => ⟨.ok { contents := some m.code }, { project with cache }, [hitRecord shown]⟩
  | (none, _) => match Module.compile source (some shown) with
    | (.error d, records) =>
        ⟨.ok { errors := [.ofDiagnosis d] }, project, records ++ [refusedRecord shown d]⟩
    | (.ok m, records) => match project.cache.set? key m with
      | some cache => ⟨.ok { contents := some m.code }, { project with cache }, records⟩
      | none => ⟨.error .noRoom, project, records⟩

/-- Load and compile a file. A file that is not there or is refused is an outcome too. -/
def load (project : Project) (disk : Disk) (p : Path) : Step (Except Fault Outcome) :=
  let resolved := project.resolve p
  let shown := project.displayPath resolved
  match disk.readText resolved with
  | .ok source => project.loadSource resolved shown source
  | .error .notFound =>
      ⟨.ok { errors := [absentMessage shown] }, project, [absentRecord shown]⟩
  | .error f => ⟨.error (.disk f), project, []⟩

end Loading

section Building

def builtRecord (entry outfile : String) : Log.Record :=
  record .info "Build complete"
    [("entry", .text entry), ("outfile", .text outfile), ("elapsed_ms", Log.noTime)]

/-- Load an entry and write its code. When the entry has errors nothing is written. -/
def build (project : Project) (disk : Disk) (entry outfile : Path) :
    Step (Except Fault Outcome) × Disk :=
  let loaded := project.load disk entry
  match loaded.result with
  | .error _ => (loaded, disk)
  | .ok o =>
      if o.isOk then
        let output := loaded.project.resolve outfile
        let code := (o.contents.getD "").toList
        match disk.writeBelow output (Text.Utf8.encode code) with
        | (.error f, disk') => ({ loaded with result := .error (.disk f) }, disk')
        | (.ok (), disk') =>
            let shown := builtRecord (project.displayPath entry) (project.displayPath output)
            ({ loaded with records := loaded.records ++ [shown] }, disk')
      else (loaded, disk)

end Building

end Project

end SceneMarkup.Build
