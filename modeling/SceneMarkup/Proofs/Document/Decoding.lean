import SceneMarkup.Document.Interchange
import SceneMarkup.Proofs.Document.Depth
import SceneMarkup.Proofs.Document.Place
import SceneMarkup.Proofs.Entries

/-! # Documents from JSON

A document is read back from its JSON value, in which members that would be empty are absent. What
is lost are the places of the fragments.
-/

namespace SceneMarkup

/-! ### Readers -/

def Json.string? : Json → Option String
  | .string s => some s
  | _ => none

def AttributeValue.ofJson? : Json → Option AttributeValue
  | .string s => some (.text s)
  | .bool true => some .present
  | _ => none

def readItems? {α : Type} (read : Json → Option α) : List Json → Option (List α)
  | [] => some []
  | x :: xs => do return (← read x) :: (← readItems? read xs)

def readEntries? {α : Type} (read : Json → Option α) :
    List (String × Json) → Option (Entries α)
  | [] => some []
  | (key, x) :: ms => do return (key, ← read x) :: (← readEntries? read ms)

/-- The map in a member, empty when the member is absent. -/
def readMap? {α : Type} (read : Json → Option α) : Option Json → Option (Entries α)
  | none => some []
  | some (.object ms) => readEntries? read ms
  | some _ => none

def Script.ofJson? : Json → Option Script
  | .object ms => do
      let source ← (← Entries.get? ms "source").string?
      let attributes ← readMap? AttributeValue.ofJson? (Entries.get? ms "attributes")
      return ⟨source, attributes⟩
  | _ => none

mutual

def Fragment.ofJson? : Json → Option Fragment
  | .object ms => do
      let name ← (← Entries.get? ms "name").string?
      let attributes ← readMap? AttributeValue.ofJson? (Entries.get? ms "attributes")
      let bindings ← readMap? Json.string? (Entries.get? ms "bindings")
      let children ← Fragment.childrenOfJson? ms
      return .mk name attributes bindings children 0 0
  | _ => none

def Fragment.childrenOfJson? : List (String × Json) → Option (List Fragment)
  | [] => some []
  | (key, x) :: ms =>
      if key = "children" then Fragment.listOfJson? x else Fragment.childrenOfJson? ms

def Fragment.listOfJson? : Json → Option (List Fragment)
  | .array xs => Fragment.allOfJson? xs
  | _ => none

def Fragment.allOfJson? : List Json → Option (List Fragment)
  | [] => some []
  | x :: xs => do return (← Fragment.ofJson? x) :: (← Fragment.allOfJson? xs)

end

def Document.ofJson? (j : Json) : Option Document :=
  match j with
  | .object ms =>
      match Entries.get? ms "scripts", Entries.get? ms "fragments" with
      | some (.array scripts), some (.array fragments) => do
          return ⟨← readItems? Script.ofJson? scripts, ← Fragment.allOfJson? fragments⟩
      | _, _ => none
  | _ => none

/-! ### Members -/

variable {α : Type}

def held (items : List α) (value : Json) : Option Json := if items = [] then none else some value

theorem get?_optionalMember (key : String) (items : List α) (value : Json) (k : String) :
    Entries.get? (optionalMember key items value) k =
      if key = k then held items value else none := by
  cases items with
  | nil => simp [optionalMember, held, Entries.get?]
  | cons a items => simp [optionalMember, held, Entries.get?]

theorem mem_optionalMember {key : String} {items : List α} {value : Json} {m : String × Json} :
    m ∈ optionalMember key items value ↔ items ≠ [] ∧ m = (key, value) := by
  cases items with
  | nil => simp [optionalMember]
  | cons a items => simp [optionalMember]

theorem keys_optionalMember_sublist (key : String) (items : List α) (value : Json) :
    (Entries.keys (optionalMember key items value)).Sublist [key] := by
  cases items with
  | nil => exact List.nil_sublist _
  | cons a items => exact List.Sublist.refl _

def Script.members (s : Script) : Entries Json :=
  optionalMember "attributes" s.attributes (attributesToJson s.attributes) ++
    [("source", .string s.source)]

theorem Script.toJson_eq (s : Script) : s.toJson = .object s.members := rfl

theorem Script.get?_members (s : Script) (key : String) :
    Entries.get? s.members key =
      if "attributes" = key then held s.attributes (attributesToJson s.attributes)
      else if "source" = key then some (.string s.source)
      else none := by
  rw [members, Entries.get?_append, get?_optionalMember, Entries.get?, Entries.get?]
  by_cases ha : "attributes" = key
  · subst ha
    simp
  · simp [ha]

def bindingsToJson (bindings : Entries String) : Json :=
  .object (bindings.map fun e => (e.1, .string e.2))

namespace Fragment

def members (f : Fragment) : Entries Json :=
  ("name", .string f.name) ::
    (optionalMember "attributes" f.attributes (attributesToJson f.attributes) ++
      optionalMember "bindings" f.bindings (bindingsToJson f.bindings) ++
      optionalMember "children" f.children (.array (f.children.map toJson)))

theorem allToJson_eq_map (fs : List Fragment) : allToJson fs = fs.map toJson := by
  induction fs with
  | nil => rfl
  | cons f fs ih => rw [allToJson, ih, List.map_cons]

theorem toJson_eq (f : Fragment) : f.toJson = .object f.members := by
  cases f
  rw [toJson, allToJson_eq_map]
  rfl

theorem get?_members (f : Fragment) (key : String) :
    Entries.get? f.members key =
      if "name" = key then some (.string f.name)
      else if "attributes" = key then held f.attributes (attributesToJson f.attributes)
      else if "bindings" = key then held f.bindings (bindingsToJson f.bindings)
      else if "children" = key then held f.children (.array (f.children.map toJson))
      else none := by
  rw [members, Entries.get?, Entries.get?_append, Entries.get?_append, get?_optionalMember,
    get?_optionalMember, get?_optionalMember]
  by_cases ha : "attributes" = key
  · subst ha
    simp
  · by_cases hb : "bindings" = key
    · subst hb
      simp
    · simp [ha, hb]

end Fragment

/-! ### Round trips -/

theorem AttributeValue.ofJson?_toJson (v : AttributeValue) : ofJson? v.toJson = some v := by
  cases v <;> rfl

theorem readEntries?_map {read : Json → Option α} {write : α → Json}
    (h : ∀ v, read (write v) = some v) (m : Entries α) :
    readEntries? read (m.map fun e => (e.1, write e.2)) = some m := by
  induction m with
  | nil => rfl
  | cons e m ih => rw [List.map_cons, readEntries?, h, ih]; rfl

theorem readMap?_held {read : Json → Option α} {write : α → Json}
    (h : ∀ v, read (write v) = some v) (m : Entries α) :
    readMap? read (held m (.object (m.map fun e => (e.1, write e.2)))) = some m := by
  rw [held]
  split
  · next hm => rw [hm]; rfl
  · exact readEntries?_map h m

theorem readItems?_map {read : Json → Option α} {write : α → Json}
    (h : ∀ x, read (write x) = some x) (xs : List α) :
    readItems? read (xs.map write) = some xs := by
  induction xs with
  | nil => rfl
  | cons x xs ih => rw [List.map_cons, readItems?, h, ih]; rfl

theorem Script.ofJson?_toJson (s : Script) : ofJson? s.toJson = some s := by
  have ha : readMap? AttributeValue.ofJson? (held s.attributes (attributesToJson s.attributes)) =
      some s.attributes := readMap?_held AttributeValue.ofJson?_toJson _
  rw [toJson_eq, ofJson?, get?_members, get?_members]
  simp [ha, Json.string?]

namespace Fragment

theorem childrenOfJson?_eq (ms : Entries Json) :
    childrenOfJson? ms = match Entries.get? ms "children" with
      | none => some []
      | some x => listOfJson? x := by
  induction ms with
  | nil => rfl
  | cons m ms ih =>
    rw [childrenOfJson?, Entries.get?]
    split
    · rfl
    · exact ih

theorem allOfJson?_map {fs : List Fragment} (h : ∀ f ∈ fs, ofJson? f.toJson = some f.unplaced) :
    allOfJson? (fs.map toJson) = some (fs.map unplaced) := by
  induction fs with
  | nil => rfl
  | cons f fs ih =>
    obtain ⟨hf, hs⟩ := List.forall_mem_cons.mp h
    rw [List.map_cons, allOfJson?, hf, ih hs]
    rfl

theorem childrenOfJson?_members (f : Fragment)
    (h : ∀ child ∈ f.children, ofJson? child.toJson = some child.unplaced) :
    childrenOfJson? f.members = some (f.children.map unplaced) := by
  have hm : Entries.get? f.members "children" =
      held f.children (.array (f.children.map toJson)) := by simp [get?_members]
  rw [childrenOfJson?_eq, hm, held]
  split_ifs with hc
  · rw [hc]
    rfl
  · exact allOfJson?_map h

theorem ofJson?_toJson (f : Fragment) : ofJson? f.toJson = some f.unplaced := by
  induction f using induct with
  | mk name attributes bindings children line column ih =>
    have ha : readMap? AttributeValue.ofJson? (held attributes (attributesToJson attributes)) =
      some attributes := readMap?_held AttributeValue.ofJson?_toJson _
    have hb : readMap? Json.string? (held bindings (bindingsToJson bindings)) = some bindings :=
      readMap?_held (fun s => (rfl : Json.string? (.string s) = some s)) _
    have hc := childrenOfJson?_members (mk name attributes bindings children line column) ih
    rw [toJson_eq, ofJson?, hc]
    simp [get?_members, Fragment.name, Fragment.attributes, Fragment.bindings, Fragment.children,
      ha, hb, Json.string?]

theorem allOfJson?_allToJson (fs : List Fragment) :
    allOfJson? (allToJson fs) = some (fs.map unplaced) := by
  rw [allToJson_eq_map]
  exact allOfJson?_map fun f _ => ofJson?_toJson f

end Fragment

/-- A document is read back but for the places of its fragments. -/
theorem Document.ofJson?_toJson (d : Document) : ofJson? d.toJson = some d.unplaced := by
  have hs := readItems?_map Script.ofJson?_toJson d.scripts
  have hf := Fragment.allOfJson?_allToJson d.fragments
  simp [toJson, ofJson?, Entries.get?, hs, hf, unplaced]

end SceneMarkup
