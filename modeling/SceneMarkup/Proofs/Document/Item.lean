import SceneMarkup.Document.Tag
import SceneMarkup.Proofs.Entries

/-! # Items of a tag

The items of a tag are consistent when none of them conflicts with those before it. A tag takes
consistent items one by one and holds their attributes and bindings; it refuses the first item that
conflicts.
-/

namespace SceneMarkup

/-- One item of a tag, as it is written. -/
inductive Item where
  | bare (name : String)
  | quoted (name text : String)
  | bound (name source : String)
  | shorthand (name : String)
  deriving DecidableEq, Repr

namespace Item

def attribute? : Item → Option (String × AttributeValue)
  | bare name => some (name, .present)
  | quoted name text => some (name, .text text)
  | bound .. | shorthand _ => none

def binding? : Item → Option (String × String)
  | bound name source => some (name, source)
  | shorthand name => some (name, name)
  | bare _ | quoted .. => none

/-- The attributes that items give, in their order. -/
def attributes (items : List Item) : Entries AttributeValue := items.filterMap attribute?

/-- The names that items bind, each with its last text at the place of its first. -/
def bindings (items : List Item) : Entries String := Entries.ofList (items.filterMap binding?)

def binders (name : String) (items : List Item) : List Item :=
  items.filter fun item => item.binding?.any (·.1 == name)

/-- An item that may not follow these: an attribute or a shorthand whose name is taken, or a
binding whose name is taken by more than one shorthand. -/
def Conflicts (before : List Item) : Item → Prop
  | bare name | quoted name _ => name ∈ Entries.keys (attributes before)
  | shorthand name => binders name before ≠ []
  | bound name _ => binders name before ≠ [] ∧ binders name before ≠ [shorthand name]

/-- No item conflicts with those before it. -/
def Consistent (items : List Item) : Prop :=
  ∀ before item after, items = before ++ item :: after → ¬ item.Conflicts before

variable {before items : List Item} {item : Item} {name : String}

theorem consistent_nil : Consistent [] := fun before item after h => by simp at h

theorem consistent_concat :
    Consistent (items ++ [item]) ↔ Consistent items ∧ ¬ item.Conflicts items := by
  constructor
  · intro h
    exact ⟨fun before i after he => h before i (after ++ [item]) (by simp [he]),
      h items item [] rfl⟩
  · rintro ⟨h, hi⟩ before i after he
    rcases List.eq_nil_or_concat after with rfl | ⟨after, last, rfl⟩
    · obtain ⟨rfl, hl⟩ := List.append_inj' he rfl
      exact (List.cons.inj hl).1 ▸ hi
    · rw [List.concat_eq_append, ← List.cons_append, ← List.append_assoc] at he
      exact h before i after (List.append_inj' he rfl).1

/-- Of items that are not consistent there is a first that conflicts. -/
theorem exists_first_conflict (h : ¬ Consistent items) : ∃ before item after,
    items = before ++ item :: after ∧ Consistent before ∧ item.Conflicts before := by
  induction items using List.reverseRecOn with
  | nil => exact absurd consistent_nil h
  | append_singleton items item ih =>
    by_cases hc : Consistent items
    · have hi : item.Conflicts items := by
        by_contra hi
        exact h (consistent_concat.mpr ⟨hc, hi⟩)
      exact ⟨items, item, [], rfl, hc, hi⟩
    · obtain ⟨before, first, after, rfl, hb, hf⟩ := ih hc
      exact ⟨before, first, after ++ [item], by simp, hb, hf⟩

theorem binders_concat : binders name (items ++ [item]) =
    binders name items ++ binders name [item] := List.filter_append ..

@[simp] theorem binders_bare (key : String) : binders name [bare key] = [] := rfl

@[simp] theorem binders_quoted (key text : String) : binders name [quoted key text] = [] := rfl

@[simp] theorem binders_bound (key source : String) :
    binders name [bound key source] = if key = name then [bound key source] else [] := by
  simp [binders, binding?, List.filter_singleton]

@[simp] theorem binders_shorthand (key : String) :
    binders name [shorthand key] = if key = name then [shorthand key] else [] := by
  simp [binders, binding?, List.filter_singleton]

theorem mem_keys_bindings :
    name ∈ Entries.keys (bindings items) ↔ binders name items ≠ [] := by
  rw [bindings, Entries.mem_keys_ofList, Ne, binders, List.filter_eq_nil_iff]
  simp only [Entries.keys, List.mem_map, List.mem_filterMap, Prod.exists, Option.any_eq_true,
    beq_iff_eq]
  constructor
  · rintro ⟨name, source, ⟨item, hm, hi⟩, rfl⟩ h
    exact h item hm ⟨name, source, hi, rfl⟩
  · intro h
    simp only [not_forall, not_not] at h
    obtain ⟨item, hm, _, source, hi, rfl⟩ := h
    exact ⟨_, source, ⟨item, hm, hi⟩, rfl⟩

end Item

namespace Tag

open Item

def give (tag : Tag) (place : Location) : Item → Except Stop Tag
  | .bare name => tag.setAttribute name .present place
  | .quoted name text => tag.setAttribute name (.text text) place
  | .bound name source => tag.setBinding name source place
  | .shorthand name => tag.setShorthand name place

/-- The tag as it stands behind consistent items. -/
structure Holds (tag : Tag) (items : List Item) : Prop where
  attributes : tag.attributes = Item.attributes items
  bindings : tag.bindings = Item.bindings items
  shorthands : ∀ name, name ∈ tag.shorthands ↔ binders name items = [.shorthand name]
  consistent : Consistent items

variable {tag tag' : Tag} {items : List Item} {item : Item} {place : Location}

theorem holds_ofName (name : String) : (ofName name).Holds [] where
  attributes := rfl
  bindings := rfl
  shorthands := by simp [ofName, binders]
  consistent := consistent_nil

/-- The fault of an item that conflicts. -/
def twice : Item → Fault
  | .bare name | .quoted name _ => .attributeTwice name
  | .bound name _ | .shorthand name => .bindingTwice name

theorem give_of_conflicts (h : tag.Holds items) (hc : item.Conflicts items) :
    tag.give place item = (twice item).stop place := by
  cases item with
  | bare | quoted =>
    rw [give, setAttribute, if_pos (Entries.has_iff.mpr (h.attributes ▸ hc))]
    rfl
  | bound name source =>
    rw [give, setBinding, if_pos]
    · rfl
    · have h₁ := Entries.has_iff.mpr (h.bindings ▸ mem_keys_bindings.mpr hc.1)
      have h₂ := mt (h.shorthands name).mp hc.2
      simp [h₁, h₂]
  | shorthand =>
    rw [give, setShorthand, if_pos (Entries.has_iff.mpr (h.bindings ▸ mem_keys_bindings.mpr hc))]
    rfl

def grown (tag : Tag) : Item → Tag
  | .bare name => { tag with attributes := tag.attributes.put name .present }
  | .quoted name text => { tag with attributes := tag.attributes.put name (.text text) }
  | .bound name source => { tag with
      bindings := tag.bindings.put name source
      shorthands := tag.shorthands.filter (· != name) }
  | .shorthand name => { tag with
      bindings := tag.bindings.put name name
      shorthands := name :: tag.shorthands }

@[simp] theorem name_grown (tag : Tag) (item : Item) : (tag.grown item).name = tag.name := by
  cases item <;> rfl

theorem give_of_not_conflicts (h : tag.Holds items) (hc : ¬ item.Conflicts items) :
    tag.give place item = .ok (tag.grown item) := by
  cases item with
  | bare | quoted =>
    rw [give, setAttribute, if_neg (mt Entries.has_iff.mp (h.attributes ▸ hc))]
    rfl
  | bound name source =>
    rw [give, setBinding, if_neg]
    · rfl
    · intro hb
      obtain ⟨h₁, h₂⟩ := Bool.and_eq_true_iff.mp hb
      refine hc ⟨mem_keys_bindings.mp (h.bindings ▸ Entries.has_iff.mp h₁), fun hs => ?_⟩
      have := (h.shorthands name).mpr hs
      simp [this] at h₂
  | shorthand name =>
    rw [give, setShorthand, if_neg]
    · rfl
    · exact fun hb => hc (mem_keys_bindings.mp (h.bindings ▸ Entries.has_iff.mp hb))

theorem attributes_grown (h : tag.Holds items) (hc : ¬ item.Conflicts items) :
    (tag.grown item).attributes = Item.attributes (items ++ [item]) := by
  have ha := h.attributes
  rw [Item.attributes, List.filterMap_append]
  cases item with
  | bare | quoted =>
    rw [grown, ha]
    exact Entries.put_of_not_mem hc
  | bound | shorthand => exact ha.trans (List.append_nil _).symm

theorem bindings_grown (h : tag.Holds items) :
    (tag.grown item).bindings = Item.bindings (items ++ [item]) := by
  have hb := h.bindings
  rw [Item.bindings, List.filterMap_append]
  cases item with
  | bare | quoted => exact hb.trans (congrArg Entries.ofList (List.append_nil _).symm)
  | bound name source =>
    rw [grown, hb]
    exact (Entries.ofList_concat _ (name, source)).symm
  | shorthand name =>
    rw [grown, hb]
    exact (Entries.ofList_concat _ (name, name)).symm

theorem mem_shorthands_grown (h : tag.Holds items) (hc : ¬ item.Conflicts items) (name : String) :
    name ∈ (tag.grown item).shorthands ↔ binders name (items ++ [item]) = [.shorthand name] := by
  have hs := h.shorthands name
  rw [binders_concat]
  cases item with
  | bare | quoted => simpa [grown] using hs
  | bound key source =>
    by_cases hk : key = name
    · subst hk
      have : binders key items = [] ∨ binders key items = [.shorthand key] := by
        by_contra hb
        exact hc (not_or.mp hb)
      rcases this with hb | hb <;> simp [grown, hb]
    · simpa [grown, hk, Ne.symm hk] using hs
  | shorthand key =>
    by_cases hk : key = name
    · subst hk
      simp [grown, Classical.not_not.mp hc]
    · simpa [grown, hk, Ne.symm hk] using hs

theorem Holds.grown (h : tag.Holds items) (hc : ¬ item.Conflicts items) :
    (tag.grown item).Holds (items ++ [item]) where
  attributes := attributes_grown h hc
  bindings := bindings_grown h
  shorthands := mem_shorthands_grown h hc
  consistent := consistent_concat.mpr ⟨h.consistent, hc⟩

/-- A tag takes an item unless it conflicts. -/
theorem give_eq_ok_iff (h : tag.Holds items) :
    tag.give place item = .ok tag' ↔ ¬ item.Conflicts items ∧ tag' = tag.grown item := by
  by_cases hc : item.Conflicts items
  · rw [give_of_conflicts h hc]
    exact iff_of_false (by simp [Fault.stop]) fun hn => hn.1 hc
  · rw [give_of_not_conflicts h hc]
    simp [hc, eq_comm]

end Tag

end SceneMarkup
