import SceneMarkup.Document.Basic

/-! # Traversal

Fragments are visited in the order of the source, a parent before its children. The visit keeps
the fragments still to come on a list, so that deep documents need no deep recursion.
-/

namespace SceneMarkup

namespace Fragment

/-- The pending fragments and all inside them, after those already visited. -/
def visit (visited : List Fragment) : List Fragment → List Fragment
  | [] => visited.reverse
  | f :: pending => visit (f :: visited) (f.children ++ pending)
termination_by pending => sizeAll pending
decreasing_by simp [sizeAll, sizeAll_append, size_eq]

/-- The pending fragments with their depths, and all inside them. -/
def visitLevels (visited : List (Nat × Fragment)) :
    List (Nat × Fragment) → List (Nat × Fragment)
  | [] => visited.reverse
  | (level, f) :: pending =>
      visitLevels ((level, f) :: visited) (f.children.map (level + 1, ·) ++ pending)
termination_by pending => sizeAll (pending.map Prod.snd)
decreasing_by simp [sizeAll, sizeAll_append, size_eq, Function.comp_def]

/-- This fragment and all inside it, in the order of the source. -/
def walk (f : Fragment) : List Fragment := visit [] [f]

/-- This fragment and those inside it that have a name. -/
def findByName (f : Fragment) (name : String) : List Fragment :=
  f.walk.filter (·.name == name)

end Fragment

namespace Document

/-- Every fragment, in the order of the source. -/
def walk (d : Document) : List Fragment := Fragment.visit [] d.fragments

/-- Every fragment with its depth, roots at depth 0. -/
def walkLevels (d : Document) : List (Nat × Fragment) :=
  Fragment.visitLevels [] (d.fragments.map (0, ·))

/-- Every fragment that has a name. -/
def find (d : Document) (name : String) : List Fragment := d.walk.filter (·.name == name)

end Document

end SceneMarkup
