import SceneMarkup.Proofs.Entries
import SceneMarkup.Value.Basic

/-! # Values up to the order of entries

Two values are the same when every route into the one ends at what it ends at in the other. Lists
keep their order, and tables may hold their entries in any order.
-/

namespace SceneMarkup.Value

/-- A place in a value: under a key of a table, or at an index of a list. -/
inductive Slot where
  | entry (key : String)
  | element (index : Nat)
  deriving DecidableEq, Repr

def child? : Slot → Value → Option Value
  | .entry key, table es => Entries.get? es key
  | .element i, list xs => xs[i]?
  | _, _ => none

/-- A value without what is in it. -/
def bare : Value → Value
  | list _ => list []
  | table _ => table []
  | v => v

def seen : List Slot → Value → Option Value
  | [], v => some v.bare
  | p :: route, v => (child? p v).bind (seen route)

/-- Values that differ at most in the order of the entries of tables. -/
def Same (v w : Value) : Prop := ∀ route, seen route v = seen route w

def SameIfAny (a b : Option Value) : Prop := ∀ route, a.bind (seen route) = b.bind (seen route)

/-- Every table in the value has distinct keys. -/
inductive Keyed : Value → Prop where
  | table {es : Entries Value} :
      (Entries.keys es).Nodup → (∀ e ∈ es, Keyed e.2) → Keyed (table es)
  | list {xs : List Value} : (∀ x ∈ xs, Keyed x) → Keyed (list xs)
  | plain {v : Value} : (∀ es, v ≠ .table es) → (∀ xs, v ≠ .list xs) → Keyed v

variable {v w u : Value} {a b : Option Value} {es es' : Entries Value} {xs ys : List Value}
  {p : Slot} {n : Nat}

theorem Same.refl (v : Value) : Same v v := fun _ => rfl

theorem Same.symm (h : Same v w) : Same w v := fun route => (h route).symm

theorem Same.bare_eq (h : Same v w) : v.bare = w.bare := Option.some.inj (h [])

theorem Same.child (h : Same v w) (p : Slot) : SameIfAny (child? p v) (child? p w) :=
  fun route => h (p :: route)

theorem same_of_child (hb : v.bare = w.bare) (hc : ∀ p, SameIfAny (child? p v) (child? p w)) :
    Same v w := by
  rintro (_ | ⟨p, route⟩)
  · exact congrArg some hb
  · exact hc p route

theorem SameIfAny.refl (a : Option Value) : SameIfAny a a := fun _ => rfl

theorem SameIfAny.exists_right (h : SameIfAny (some v) b) : ∃ w, b = some w ∧ Same v w := by
  cases b with
  | none => cases h []
  | some w => exact ⟨w, rfl, h⟩

theorem SameIfAny.eq_none (h : SameIfAny none b) : b = none := by
  cases b with
  | none => rfl
  | some w => cases h []

theorem sameIfAny_some_iff : SameIfAny (some v) (some w) ↔ Same v w := Iff.rfl

theorem not_sameIfAny_some_none : ¬ SameIfAny (some v) none := fun h => nomatch h []

theorem not_sameIfAny_none_some : ¬ SameIfAny none (some v) := fun h => nomatch h []

theorem bare_eq_table : v.bare = table [] ↔ ∃ es, v = table es := by
  cases v <;> simp [bare]

theorem Same.exists_table (h : Same (table es) w) : ∃ es', w = table es' :=
  bare_eq_table.mp h.bare_eq.symm

theorem Same.ne_table (h : Same v w) (hv : ∀ es, v ≠ .table es) : ∀ es, w ≠ .table es := by
  rintro es rfl
  obtain ⟨es', he⟩ := h.symm.exists_table
  exact hv es' he

theorem same_table_iff :
    Same (table es) (table es') ↔ ∀ k, SameIfAny (Entries.get? es k) (Entries.get? es' k) := by
  constructor
  · exact fun h k => h.child (.entry k)
  · intro h
    refine same_of_child rfl ?_
    rintro (k | i)
    · exact h k
    · exact .refl none

theorem same_list_cons_iff : Same (list (v :: xs)) (list (w :: ys)) ↔
    Same v w ∧ Same (list xs) (list ys) := by
  constructor
  · refine fun h => ⟨h.child (.element 0), same_of_child rfl ?_⟩
    rintro (k | i)
    · exact .refl none
    · exact h.child (.element (i + 1))
  · rintro ⟨hv, hs⟩
    refine same_of_child rfl ?_
    rintro (k | _ | i)
    · exact .refl none
    · exact hv
    · exact hs.child (.element i)

theorem same_list_iff : Same (list xs) (list ys) ↔ List.Forall₂ Same xs ys := by
  induction xs generalizing ys with
  | nil =>
    cases ys with
    | nil => exact iff_of_true (.refl _) .nil
    | cons w ys => exact iff_of_false (fun h => nomatch h [.element 0]) nofun
  | cons v xs ih =>
    cases ys with
    | nil => exact iff_of_false (fun h => nomatch h [.element 0]) nofun
    | cons w ys => rw [same_list_cons_iff, ih, List.forall₂_cons]

theorem Keyed.nodup (h : Keyed (.table es)) : (Entries.keys es).Nodup := by
  cases h with
  | table hk => exact hk
  | plain h => exact absurd rfl (h es)

theorem Keyed.of_mem (h : Keyed (.table es)) {e : String × Value} (he : e ∈ es) : Keyed e.2 := by
  cases h with
  | table _ h => exact h e he
  | plain h => exact absurd rfl (h es)

theorem Keyed.get? (h : Keyed (.table es)) {k : String} (hv : Entries.get? es k = some v) :
    Keyed v :=
  h.of_mem (Entries.mem_of_get? hv)

/-! ### Levels -/

theorem levels_pos (v : Value) : 0 < v.levels := by
  cases v with
  | list xs => rw [levels]; omega
  | table es => cases es <;> rw [levels] <;> omega
  | _ => exact Nat.one_pos

theorem levels_le_of_mem {e : String × Value} (h : e ∈ es) : e.2.levels ≤ levelsOfEntries es := by
  induction es with
  | nil => cases h
  | cons d es ih =>
    rw [levelsOfEntries]
    rcases List.mem_cons.mp h with rfl | h
    · exact Nat.le_max_left ..
    · exact Nat.le_trans (ih h) (Nat.le_max_right ..)

theorem levels_le_of_mem_elements (h : v ∈ xs) : v.levels ≤ levelsOfElements xs := by
  induction xs with
  | nil => cases h
  | cons x xs ih =>
    rw [levelsOfElements]
    rcases List.mem_cons.mp h with rfl | h
    · exact Nat.le_max_left ..
    · exact Nat.le_trans (ih h) (Nat.le_max_right ..)

theorem levelsOfEntries_lt (hn : 0 < n) (h : ∀ e ∈ es, e.2.levels < n) :
    levelsOfEntries es < n := by
  induction es with
  | nil => exact hn
  | cons e es ih =>
    rw [levelsOfEntries]
    exact Nat.max_lt.mpr ⟨h e (by simp), ih fun d hd => h d (by simp [hd])⟩

theorem levelsOfElements_lt (hn : 0 < n) (h : ∀ x ∈ xs, x.levels < n) :
    levelsOfElements xs < n := by
  induction xs with
  | nil => exact hn
  | cons x xs ih =>
    rw [levelsOfElements]
    exact Nat.max_lt.mpr ⟨h x (by simp), ih fun y hy => h y (by simp [hy])⟩

theorem levels_lt_of_get? {k : String} (h : Entries.get? es k = some v) :
    v.levels < (table es).levels := by
  have hm : (k, v) ∈ es := Entries.mem_of_get? h
  have hl : v.levels ≤ levelsOfEntries es := levels_le_of_mem hm
  cases es with
  | nil => cases hm
  | cons e es =>
    rw [levels]
    omega

theorem levels_lt_of_child? (h : child? p v = some w) : w.levels < v.levels := by
  cases p with
  | entry k =>
    cases v with
    | table es => exact levels_lt_of_get? h
    | _ => cases h
  | element i =>
    cases v with
    | list xs =>
      have hl := levels_le_of_mem_elements (List.mem_of_getElem? h)
      rw [levels]
      omega
    | _ => cases h

theorem Keyed.levels_le (hv : Keyed v) (h : Same v w) : v.levels ≤ w.levels := by
  induction hv generalizing w with
  | @table es hk _ ih =>
    cases es with
    | nil => exact levels_pos w
    | cons e es =>
      have hm : ∀ d ∈ e :: es, d.2.levels < w.levels := by
        intro d hd
        have hc := h.child (.entry d.1)
        rw [child?, Entries.get?_of_mem hk hd] at hc
        obtain ⟨u, hu, hs⟩ := hc.exists_right
        exact Nat.lt_of_le_of_lt (ih d hd hs) (levels_lt_of_child? hu)
      have he := hm e (by simp)
      have hp := levels_pos e.2
      have hl := levelsOfEntries_lt (Nat.zero_lt_of_lt he) hm
      rw [levels]
      omega
  | @list xs _ ih =>
    have hm : ∀ x ∈ xs, x.levels < w.levels := by
      intro x hx
      obtain ⟨i, hi⟩ := List.mem_iff_getElem?.mp hx
      have hc := h.child (.element i)
      rw [child?, hi] at hc
      obtain ⟨u, hu, hs⟩ := hc.exists_right
      exact Nat.lt_of_le_of_lt (ih x hx hs) (levels_lt_of_child? hu)
    have hl := levelsOfElements_lt (levels_pos w) hm
    rw [levels]
    omega
  | @plain v ht hl =>
    cases v with
    | table es => exact absurd rfl (ht es)
    | list xs => exact absurd rfl (hl xs)
    | _ => exact levels_pos w

theorem Same.levels_eq (hv : Keyed v) (hw : Keyed w) (h : Same v w) : v.levels = w.levels :=
  Nat.le_antisymm (hv.levels_le h) (hw.levels_le h.symm)

end SceneMarkup.Value
