import SceneMarkup.Catalogue
import SceneMarkup.Proofs.Entries

/-! # What the catalogue offers

A public name stands for one thing: the package offers what it lists, and nothing else. Every
component is offered under its own name.
-/

namespace SceneMarkup.Catalogue

variable {name message : String} {item : Item}

theorem nodup_keys_items : (Entries.keys items).Nodup := by
  decide +kernel

/-- A name is offered as what the catalogue lists it for. -/
theorem lookup_eq_ok_iff : lookup name = .ok item ↔ (name, item) ∈ items := by
  have hi : lookup name = .ok item ↔ items.get? name = some item := by
    rw [lookup]
    cases items.get? name with
    | none => simp
    | some found => simp
  rw [hi]
  exact ⟨Entries.mem_of_get?, Entries.get?_of_mem nodup_keys_items⟩

/-- Every other name is refused by a message that says so. -/
theorem lookup_eq_error_iff : lookup name = .error message ↔ (∀ item, (name, item) ∉ items) ∧
    message = "module 'opal' has no attribute '" ++ name ++ "'" := by
  have hn : (∀ item, (name, item) ∉ items) ↔ items.get? name = none := by
    rw [Option.eq_none_iff_forall_ne_some]
    exact forall_congr' fun item =>
      not_congr ⟨Entries.get?_of_mem nodup_keys_items, Entries.mem_of_get?⟩
  rw [hn, lookup]
  cases items.get? name with
  | some found => simp
  | none =>
    have hm : absentMessage name = "module 'opal' has no attribute '" ++ name ++ "'" := rfl
    simp [hm, eq_comm]

theorem lookup_component (h : (name, item) ∈ components) :
    ∃ home, lookup name = .ok (.component (some home) name) := by
  have defined {home : String} {names : List String}
      (hm : (name, item) ∈ names.map fun name => (name, Item.component (some home) name)) :
      ∃ home, item = .component (some home) name := by
    obtain ⟨other, -, he⟩ := List.mem_map.mp hm
    obtain ⟨rfl, rfl⟩ := Prod.mk.inj he
    exact ⟨home, rfl⟩
  have hi : ∃ home, item = .component (some home) name := by
    simp only [components, List.mem_append] at h
    rcases h with (((((h | h) | h) | h) | h) | h) | h <;> exact defined h
  obtain ⟨home, rfl⟩ := hi
  refine ⟨home, lookup_eq_ok_iff.mpr ?_⟩
  exact List.mem_append_left _ (List.mem_append_left _ (List.mem_append_right _ h))

end SceneMarkup.Catalogue
