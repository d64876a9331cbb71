import SceneMarkup.Digest.Md5
import SceneMarkup.Document.Reading
import SceneMarkup.Log.Record
import SceneMarkup.Text.Lines
import SceneMarkup.Text.Utf8

/-! # Modules

A document becomes a JavaScript module: the scripts in an inlinable language, then a scaffold that
names the root fragments in comments. Every step is reported in log records.
-/

namespace SceneMarkup

/-- Generated lines, first line first. -/
structure Listing where
  lines : List String
  deriving DecidableEq, Repr

namespace Listing

def empty : Listing := ⟨[]⟩

def writeLine (l : Listing) (line : String) : Listing := ⟨l.lines ++ [line]⟩

/-- Write an empty line, unless there is none to separate from or the last one is empty. -/
def writeBlank (l : Listing) : Listing :=
  match l.lines.getLast? with
  | none => l
  | some last => if last.isEmpty then l else l.writeLine ""

/-- Write a block of code without its margin. -/
def writeBlock (l : Listing) (text : String) : Listing :=
  ⟨l.lines ++ (Text.blockLines text.toList).map String.ofList⟩

/-- The lines as text, each with its end. -/
def code (l : Listing) : String := "\n".intercalate l.lines ++ "\n"

end Listing

/-- A generated module. The fingerprint identifies the source it comes from. -/
structure Module where
  code : String
  document : Document
  fingerprint : String
  path : Option String

namespace Document

def readRecord (path : Option String) (r : Reading) : Log.Record where
  level := .debug
  logger := Log.parserLogger
  message := "Parsed document"
  context := [("path", .text (shownPath path)), ("fragments", .integer r.closed),
    ("scripts", .integer r.scripts.length), ("elapsed_ms", Log.noTime)]
  cause := none

/-- Read a source, with the records of doing so. -/
def parseLogged (source : String) (path : Option String) :
    Except Diagnosis Document × List Log.Record :=
  match read source.toList with
  | .ok r => (.ok r.document, [readRecord path r])
  | .error f => (.error (Diagnosis.ofFailure source.toList path f), [])

end Document

/-- The languages whose scripts go into a module as they are. -/
def inlinableLanguages : List String := ["", "js", "javascript", "ts", "typescript"]

def Script.isInlinable (s : Script) : Bool := inlinableLanguages.contains s.lang

def Script.isBlank (s : Script) : Bool := s.source.toList.all Text.isBlank

namespace Module

def skippedRecord (path : Option String) (s : Script) : Log.Record where
  level := .warning
  logger := Log.compilerLogger
  message := "Skipping script"
  context := [("path", .text (shownPath path)), ("lang", .text s.lang)]
  cause := none

def compiledRecord (path : Option String) : Log.Record where
  level := .debug
  logger := Log.compilerLogger
  message := "Compiled module"
  context := [("path", .text (shownPath path)), ("elapsed_ms", Log.noTime)]
  cause := none

def headerLine : String := "import * as THREE from 'three';"

def sceneLine : String := "const scene = new THREE.Scene();"

def fragmentLine (f : Fragment) : String := "// fragment: " ++ f.name

def rendererLine : String := "const renderer = new THREE.WebGLRenderer();"

def mountLine : String := "document.getElementById(\"root\").appendChild(renderer.domElement);"

/-- Write a script, unless its language is not inlinable or it is blank. -/
def writeScript (l : Listing) (s : Script) : Listing :=
  if s.isInlinable && !s.isBlank then
    l.writeBlank.writeBlock s.source
  else l

/-- The lines of the module for a document. -/
def listing (d : Document) : Listing :=
  let l := d.scripts.foldl writeScript (Listing.empty.writeLine headerLine)
  let l := l.writeBlank.writeLine sceneLine
  let l := d.fragments.foldl (fun l f => l.writeLine (fragmentLine f)) l
  (l.writeLine rendererLine).writeLine mountLine

def fingerprintOf (source : String) : String :=
  String.ofList ((Digest.Md5.digest (Text.Utf8.encode source.toList)).toList.take 12)

/-- The module for a source, with the records of making it. -/
def compile (source : String) (path : Option String) :
    Except Diagnosis Module × List Log.Record :=
  match Document.parseLogged source path with
  | (.error d, records) => (.error d, records)
  | (.ok d, records) =>
      let skipped := (d.scripts.filter (!·.isInlinable)).map (skippedRecord path)
      (.ok ⟨(listing d).code, d, fingerprintOf source, path⟩,
        records ++ skipped ++ [compiledRecord path])

/-- Why a text with halves has no module. A refusal tells where it is. -/
inductive Fault where
  | refused (reason : Reason) (offset line column : Int)
  /-- The digest of the source is that of its bytes, and a half has none. -/
  | unencodable
  deriving DecidableEq, Repr

/-- The module for a text that may hold halves of surrogate pairs. -/
def compileText (text : List Text.Point) (path : Option String) :
    Except Fault Module × List Log.Record :=
  match compile (String.ofList (text.map Text.Point.character)) path with
  | (.error d, records) => (.error (.refused d.reason d.offset d.line d.column), records)
  | (.ok m, records) =>
      if text.any Text.Point.isHalf then (.error .unencodable, records) else (.ok m, records)

end Module

end SceneMarkup
