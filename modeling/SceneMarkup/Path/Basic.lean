import SceneMarkup.Text.Lines

/-! # Paths

A path is kept in normal form: repeated slashes and single dots are dropped, double dots stay.
Exactly two leading slashes are a root of their own; more count as one.
-/

namespace SceneMarkup

inductive Root where
  | relative
  | slash
  | doubleSlash
  deriving DecidableEq, Repr

def Root.text : Root → String
  | relative => ""
  | slash => "/"
  | doubleSlash => "//"

/-- A root and names; no name is empty or a single dot. -/
structure Path where
  root : Root
  parts : List String
  deriving DecidableEq, Repr

namespace Path

/-- The path that a text denotes. -/
def ofText (s : String) : Path :=
  let cs := s.toList
  let slashes := (cs.takeWhile (· == '/')).length
  let root := if slashes = 0 then .relative else if slashes = 2 then .doubleSlash else .slash
  let parts := (Text.splitOnP (· == '/') cs).filter fun p => !p.isEmpty && p != ['.']
  ⟨root, parts.map String.ofList⟩

/-- The text of a path; the empty relative path is a single dot. -/
def text (p : Path) : String :=
  match p.root, p.parts with
  | .relative, [] => "."
  | root, parts => root.text ++ "/".intercalate parts

def isAbsolute (p : Path) : Bool := p.root != .relative

/-- A path taken relative to another; an absolute path stays as it is. -/
def join (base p : Path) : Path :=
  if p.isAbsolute then p else ⟨base.root, base.parts ++ p.parts⟩

/-- The path without its last name; a root and the empty path are their own parents. -/
def parent (p : Path) : Path := { p with parts := p.parts.dropLast }

/-- The last name; empty when there is none. -/
def name (p : Path) : String := p.parts.getLastD ""

/-- What is left of a path below another, if it lies there. -/
def below? (p base : Path) : Option Path :=
  if p.root = base.root ∧ base.parts.isPrefixOf p.parts then
    some ⟨.relative, p.parts.drop base.parts.length⟩
  else none

end Path

end SceneMarkup
