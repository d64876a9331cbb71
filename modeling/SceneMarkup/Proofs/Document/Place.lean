import SceneMarkup.Document.Basic

/-! # Places of fragments

Moving the places of a forest leaves everything else in it as it is.
-/

namespace SceneMarkup

namespace Fragment

mutual

/-- The fragment with every line and column in it moved. -/
def moved (move : Nat × Nat → Nat × Nat) : Fragment → Fragment
  | mk name attributes bindings children line column =>
      mk name attributes bindings (allMoved move children) (move (line, column)).1
        (move (line, column)).2

def allMoved (move : Nat × Nat → Nat × Nat) : List Fragment → List Fragment
  | [] => []
  | f :: fs => moved move f :: allMoved move fs

end

variable {move : Nat × Nat → Nat × Nat}

@[simp] theorem allMoved_eq_map (fs : List Fragment) : allMoved move fs = fs.map (moved move) := by
  induction fs with
  | nil => rfl
  | cons f fs ih => rw [allMoved, ih, List.map_cons]

/-- The fragment without its places. -/
def unplaced : Fragment → Fragment := moved fun _ => (0, 0)

@[simp] theorem unplaced_mk (name : String) (attributes : Entries AttributeValue)
    (bindings : Entries String) (children : List Fragment) (line column : Nat) :
    unplaced (mk name attributes bindings children line column) =
      mk name attributes bindings (children.map unplaced) 0 0 := by
  simp [unplaced, moved]

theorem map_unplaced_eq_singleton {name : String} {attributes : Entries AttributeValue}
    {bindings : Entries String} {children fragments : List Fragment} {line column : Nat}
    (h : fragments.map unplaced =
      [mk name attributes bindings children line column].map unplaced) :
    ∃ children' line' column', fragments = [mk name attributes bindings children' line' column'] ∧
      children'.map unplaced = children.map unplaced := by
  obtain ⟨⟨name', attributes', bindings', children', line', column'⟩, rfl, he⟩ :=
    List.map_eq_singleton_iff.mp h
  simp only [unplaced_mk, mk.injEq, and_true] at he
  obtain ⟨rfl, rfl, rfl, hc⟩ := he
  exact ⟨children', line', column', rfl, hc⟩

end Fragment

/-- The document without the places of its fragments. -/
def Document.unplaced (d : Document) : Document := ⟨d.scripts, d.fragments.map Fragment.unplaced⟩

end SceneMarkup
