import SceneMarkup.Path.Basic
import SceneMarkup.Text.Utf8

/-! # Disks

A disk is a set of places, each a directory, a file, a symbolic link or a device, and a working
directory. Several places may be names of one file. Relative paths are followed step by step from
the working directory; every step needs a directory to start from, and links on the way are
followed.
-/

namespace SceneMarkup

abbrev Place := List String

namespace Disk

inductive Entry where
  | directory
  | file (bytes : List UInt8)
  /-- A symbolic link; a relative target is taken from the directory that the link lies in. -/
  | link (target : Path)
  /-- What is written to a device is not kept, and reading it gives the same bytes each time. -/
  | device (bytes : List UInt8)
  deriving DecidableEq, Repr

inductive Fault where
  | notFound
  | isDirectory
  | notDirectory
  | alreadyExists
  /-- The bytes of a file are no text. -/
  | undecodable
  /-- A name holds a null character. -/
  | nullInName
  /-- A name, or a path as a whole, is longer than a disk can hold. -/
  | nameTooLong
  /-- Links lead to more links than may be followed. -/
  | tooManyLinks
  deriving DecidableEq, Repr

end Disk

/-- What lies where: each entry with all its names. The root is a directory without an entry of its
own. -/
structure Disk where
  entries : List (List Place × Disk.Entry)
  here : Place
  deriving Repr

namespace Disk

section Places

def entryIn : List (List Place × Entry) → Place → Option Entry
  | [], _ => none
  | (names, e) :: rest, place => if place ∈ names then some e else entryIn rest place

def namesIn : List (List Place × Entry) → Place → List Place
  | [], _ => []
  | (names, _) :: rest, place => if place ∈ names then names else namesIn rest place

def at? (d : Disk) (place : Place) : Option Entry :=
  if place.isEmpty then some .directory else entryIn d.entries place

/-- All names of what lies at a place. -/
def names (d : Disk) (place : Place) : List Place := namesIn d.entries place

def putIn : List (List Place × Entry) → Place → Entry → List (List Place × Entry)
  | [], place, entry => [([place], entry)]
  | (names, e) :: rest, place, entry =>
      if place ∈ names then (names, entry) :: rest else (names, e) :: putIn rest place entry

/-- Let something lie at a place, under all names of what lay there. -/
def put (d : Disk) (place : Place) (entry : Entry) : Disk :=
  { d with entries := putIn d.entries place entry }

/-- Where the steps of an absolute or relative path start. -/
def start (d : Disk) (p : Path) : Place := if p.isAbsolute then [] else d.here

def longestName : Nat := 255

def longestPath : Nat := 4095

def mostLinks : Nat := 40

/-- One step from a place, which has to be a directory. -/
def step (d : Disk) (place : Place) (name : String) : Except Fault Place :=
  match d.at? place with
  | some .directory =>
      if name = ".." then .ok place.dropLast
      else if name.utf8ByteSize > longestName then .error .nameTooLong
      else .ok (place ++ [name])
  | some _ => .error .notDirectory
  | none => .error .notFound

/-- Go by names from a place. A link on the way is followed, and so is one at the end if the last
name counts: `follow` goes by the names of its target and those behind it. -/
def walkWith (d : Disk) (follow : Place → List String → Except Fault Place) (last : Bool) :
    Place → List String → Except Fault Place
  | place, [] => .ok place
  | place, name :: names => match d.step place name with
    | .error f => .error f
    | .ok next => match d.at? next with
      | some (.link target) =>
          if names.isEmpty && !last then .ok next
          else follow (if target.isAbsolute then [] else place) (target.parts ++ names)
      | _ => d.walkWith follow last next names

/-- Go by names from a place and follow so many links at most. -/
def walk (d : Disk) (last : Bool) : (links : Nat) → Place → List String → Except Fault Place
  | 0 => d.walkWith (fun _ _ => .error .tooManyLinks) last
  | links + 1 => d.walkWith (d.walk last links) last

/-- Whether a name holds a null character; such a name leads nowhere. -/
def hasNull (name : String) : Bool := name.toList.contains '\x00'

/-- The place that a path leads to, with or without following a link at its end. -/
def trace (d : Disk) (last : Bool) (p : Path) : Except Fault Place :=
  if p.parts.any hasNull then .error .nullInName
  else if p.text.utf8ByteSize > longestPath then .error .nameTooLong
  else d.walk last mostLinks (d.start p) p.parts

/-- The place that a path leads to; only what is above it has to exist. -/
def locate (d : Disk) (p : Path) : Except Fault Place := d.trace true p

def locateName (d : Disk) (p : Path) : Except Fault Place := d.trace false p

/-- What a path leads to, if it leads anywhere. Only what is too long to ask for is a fault. -/
def find? (d : Disk) (p : Path) : Except Fault (Option Entry) :=
  match d.locate p with
  | .ok place => .ok (d.at? place)
  | .error .nameTooLong => .error .nameTooLong
  | .error _ => .ok none

def doesExist (d : Disk) (p : Path) : Except Fault Bool := (d.find? p).map (·.isSome)

def isDirectory (d : Disk) (p : Path) : Except Fault Bool :=
  (d.find? p).map (· == some .directory)

def file? (d : Disk) (p : Path) : Except Fault (Option (List UInt8)) :=
  (d.find? p).map fun
    | some (.file bytes) => some bytes
    | _ => none

end Places

section Access

def read (d : Disk) (p : Path) : Except Fault (List UInt8) :=
  match d.locate p with
  | .error f => .error f
  | .ok place => match d.at? place with
    | some (.file bytes) | some (.device bytes) => .ok bytes
    | some .directory => .error .isDirectory
    | some (.link _) => .error .tooManyLinks
    | none => .error .notFound

/-- The text in a file's bytes: all its line ends become newlines. -/
def textOf? (bytes : List UInt8) : Option String :=
  (Text.Utf8.decode? bytes).map fun cs => String.ofList (Text.unifyLineEnds [] cs)

def readText (d : Disk) (p : Path) : Except Fault String :=
  match d.read p with
  | .error f => .error f
  | .ok bytes => match textOf? bytes with
    | some s => .ok s
    | none => .error .undecodable

/-- Write to what a path leads to, or to a new file; the directory that holds it has to exist. -/
def write (d : Disk) (p : Path) (bytes : List UInt8) : Except Fault Disk :=
  match d.locate p with
  | .error f => .error f
  | .ok place => match d.at? place with
    | some .directory => .error .isDirectory
    | some (.link _) => .error .tooManyLinks
    | some (.device _) => .ok d
    | some (.file _) | none => .ok (d.put place (.file bytes))

def makeDirectory (d : Disk) (p : Path) : Except Fault Disk :=
  match d.locateName p with
  | .error f => .error f
  | .ok place => match d.at? place with
    | some _ => .error .alreadyExists
    | none => .ok (d.put place .directory)

def ensureDirectory (d : Disk) (p : Path) : Except Fault Unit × Disk :=
  match d.makeDirectory p with
  | .ok d' => (.ok (), d')
  | .error .notFound => (.error .notFound, d)
  | .error f => (match d.isDirectory p with
    | .ok isThere => if isThere then .ok () else .error f
    | .error g => .error g, d)

/-- Make a directory and those above it, as far as they are missing. Directories that were made
before a fault stay. The parts are given from the last to the first. -/
def ensureDirectoriesRev (d : Disk) (root : Root) :
    (partsRev : List String) → Except Fault Unit × Disk
  | [] => d.ensureDirectory ⟨root, []⟩
  | name :: above =>
      let p : Path := ⟨root, (name :: above).reverse⟩
      match d.makeDirectory p with
      | .error .notFound => match d.ensureDirectoriesRev root above with
        | (.ok (), d') => d'.ensureDirectory p
        | (.error f, d') => (.error f, d')
      | _ => d.ensureDirectory p

def ensureDirectories (d : Disk) (p : Path) : Except Fault Unit × Disk :=
  d.ensureDirectoriesRev p.root p.parts.reverse

def writeBelow (d : Disk) (p : Path) (bytes : List UInt8) : Except Fault Unit × Disk :=
  match d.ensureDirectories p.parent with
  | (.error f, d') => (.error f, d')
  | (.ok (), d') => match d'.write p bytes with
    | .ok d'' => (.ok (), d'')
    | .error f => (.error f, d')

/-- Take away what a path names, with all that lies below it. What has another name stays under
that. -/
def remove (d : Disk) (p : Path) : Except Fault Disk :=
  match d.locateName p with
  | .error f => .error f
  | .ok place =>
      if (d.at? place).isSome then
        .ok { d with entries := d.entries.map fun (names, e) =>
          (names.filter fun name => !place.isPrefixOf name, e) }
      else .error .notFound

end Access

/-- The disk that holds nothing but a working directory. -/
def blank (here : Place) : Disk :=
  ⟨(List.range here.length).map fun n => ([here.take (n + 1)], .directory), here⟩

end Disk

end SceneMarkup
