import SceneMarkup.Entries

/-! # Documents

A document holds the raw bodies of its scripts and the forest of its fragments. The place of a
fragment is kept for messages and does not count when fragments are compared.
-/

namespace SceneMarkup

/-- A quoted text, or nothing more than the presence of the attribute. -/
inductive AttributeValue where
  | text (s : String)
  | present
  deriving DecidableEq, Repr

/-- The raw body of a script tag, with the attributes of the tag. -/
structure Script where
  source : String
  attributes : Entries AttributeValue
  deriving DecidableEq, Repr

/-- The declared language; empty when none is declared as a text. -/
def Script.lang (s : Script) : String :=
  match s.attributes.get? "lang" with
  | some (.text lang) => lang
  | _ => ""

/-- An element: its name, attributes and bindings, the elements inside it, and where it opens. -/
inductive Fragment where
  | mk (name : String) (attributes : Entries AttributeValue) (bindings : Entries String)
      (children : List Fragment) (line column : Nat)
  deriving Inhabited, Repr

namespace Fragment

def name : Fragment → String
  | mk name .. => name

def attributes : Fragment → Entries AttributeValue
  | mk _ attributes .. => attributes

def bindings : Fragment → Entries String
  | mk _ _ bindings .. => bindings

def children : Fragment → List Fragment
  | mk _ _ _ children _ _ => children

def line : Fragment → Nat
  | mk _ _ _ _ line _ => line

def column : Fragment → Nat
  | mk _ _ _ _ _ column => column

mutual

/-- How many fragments a tree holds. -/
def size : Fragment → Nat
  | mk _ _ _ children _ _ => 1 + sizeAll children

def sizeAll : List Fragment → Nat
  | [] => 0
  | f :: fs => size f + sizeAll fs

end

mutual

/-- Equal but for places and for the order in which attributes and bindings were written. -/
def alike : Fragment → Fragment → Bool
  | mk name attributes bindings children _ _, g =>
      name == g.name && attributes.agrees (· == ·) g.attributes &&
        bindings.agrees (· == ·) g.bindings && allAlike children g.children

def allAlike : List Fragment → List Fragment → Bool
  | [], [] => true
  | f :: fs, g :: gs => alike f g && allAlike fs gs
  | _, _ => false

end

mutual

def depth : Fragment → Nat
  | mk _ _ _ children _ _ => 1 + depthAll children

def depthAll : List Fragment → Nat
  | [] => 0
  | f :: fs => max (depth f) (depthAll fs)

end

mutual

/-- Whether fragments are alike, followed through so many levels; no verdict when they are alike
that far and go on below. -/
def alikeWithin? (levels : Nat) : Fragment → Fragment → Option Bool
  | mk name attributes bindings children _ _, g =>
      if levels = 0 then none
      else if name == g.name && attributes.agrees (· == ·) g.attributes &&
          bindings.agrees (· == ·) g.bindings && children.length == g.children.length then
        allAlikeWithin? (levels - 1) children g.children
      else some false

/-- Whether the fragments of two lists are alike, up to the first pair that is not. -/
def allAlikeWithin? (levels : Nat) : List Fragment → List Fragment → Option Bool
  | f :: fs, g :: gs =>
      match alikeWithin? levels f g with
      | some true => allAlikeWithin? levels fs gs
      | verdict => verdict
  | _, _ => some true

end

theorem sizeAll_append (fs gs : List Fragment) :
    sizeAll (fs ++ gs) = sizeAll fs + sizeAll gs := by
  induction fs with
  | nil => simp [sizeAll]
  | cons f fs ih => simp [sizeAll, ih, Nat.add_assoc]

theorem size_eq (f : Fragment) : f.size = 1 + sizeAll f.children := by
  cases f; simp [size, children]

end Fragment

/-- Scripts and root fragments, each in the order of the source. -/
structure Document where
  scripts : List Script
  fragments : List Fragment
  deriving Inhabited, Repr

namespace Document

def scriptsAlike (d e : Document) : Bool :=
  d.scripts.length == e.scripts.length &&
    (d.scripts.zip e.scripts).all fun (s, t) =>
      s.source == t.source && s.attributes.agrees (· == ·) t.attributes

def alike (d e : Document) : Bool :=
  d.scriptsAlike e && Fragment.allAlike d.fragments e.fragments

/-- Whether documents are alike; no verdict when the comparison would go deeper than there is
room. -/
def alike? (d : Document) (levels : Nat) (e : Document) : Option Bool :=
  if d.scriptsAlike e && d.fragments.length == e.fragments.length then
    Fragment.allAlikeWithin? levels d.fragments e.fragments
  else some false

end Document

end SceneMarkup
