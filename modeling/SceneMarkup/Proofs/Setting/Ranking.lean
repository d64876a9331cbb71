import Mathlib.Data.Int.Order.Basic
import SceneMarkup.Proofs.Lists
import SceneMarkup.Proofs.Setting.Priority
import SceneMarkup.Proofs.Setting.View

/-! # The layer on top

A layer that none of the others outranks is merged last: it is laid over the table to which the
others amount. Merging fails for all of them when one is too deep, and then no key is answered.
-/

namespace SceneMarkup.Setting

/-- No layer is too deep to be merged. -/
def Fit (levels : Nat) (layers : List Layer) : Prop := ∀ l ∈ layers, l.data.levels ≤ levels

/-- What layers bind a key to, if they bind it at all. -/
def answer (levels : Nat) (layers : List Layer) (key : String) : Except Misuse (Option Value) :=
  (merged levels layers).map fun t => find? (steps key) (.table t)

variable {layers before after : List Layer} {l top : Layer} {levels : Nat}

/-! ### Merging -/

theorem merged_append_cons (hb : ∀ l ∈ before, l.priority ≤ top.priority)
    (ha : ∀ l ∈ after, l.priority < top.priority) :
    merged levels (before ++ top :: after) =
      merged levels (before ++ after) >>= fun t => addLayer levels t top := by
  have hs : ranked (before ++ top :: after) = ranked (before ++ after) ++ [top] :=
    mergeSort_append_cons hb ha
  rw [merged, merged, hs, List.foldlM_append]
  simp

theorem exists_merged (h : ∀ l ∈ layers, l.IsTable) (hf : Fit levels layers) :
    ∃ t, merged levels layers = .ok t := by
  obtain ⟨t, ht, -⟩ := foldlM_addLayer
    (fun l hl => h l ((ranked_perm layers).mem_iff.mp hl))
    (fun l hl => hf l ((ranked_perm layers).mem_iff.mp hl)) []
  exact ⟨t, ht⟩

theorem merged_of_not_fit (h : ∀ l ∈ layers, l.IsTable) (hf : ¬ Fit levels layers) :
    merged levels layers = .error .tooDeep := by
  obtain ⟨l, hl, hd⟩ : ∃ l ∈ layers, levels < l.data.levels := by
    simpa [Fit] using hf
  exact foldlM_addLayer_of_deep (fun l hl => h l ((ranked_perm layers).mem_iff.mp hl))
    ⟨l, (ranked_perm layers).mem_iff.mpr hl, hd⟩ []

/-- The layer on top is laid over what the others amount to. -/
theorem exists_merged_of_top (h : ∀ l ∈ before ++ top :: after, l.IsTable)
    (hf : Fit levels (before ++ top :: after)) (hb : ∀ l ∈ before, l.priority ≤ top.priority)
    (ha : ∀ l ∈ after, l.priority < top.priority) :
    ∃ lower t, merged levels (before ++ after) = .ok lower ∧
      merged levels (before ++ top :: after) = .ok t ∧ .table t = laidOver (some (.table lower)) top.data := by
  have hsub : ∀ l ∈ before ++ after, l ∈ before ++ top :: after := by
    intro l hl
    simp only [List.mem_append, List.mem_cons] at hl ⊢
    tauto
  obtain ⟨lower, hl⟩ := exists_merged (fun l hl => h l (hsub l hl)) fun l hl => hf l (hsub l hl)
  obtain ⟨es, he⟩ := (h top (by simp)).table
  have ht : ¬ top.data.levels > levels := Nat.not_lt.mpr (hf top (by simp))
  refine ⟨lower, overlayEntries lower es, hl, ?_, ?_⟩
  · rw [merged_append_cons hb ha, hl]
    change addLayer levels lower top = _
    rw [addLayer, if_neg ht, he]
  · rw [he]
    exact (overlay_table lower es).symm

end SceneMarkup.Setting

namespace SceneMarkup.Settings

open Setting

variable {s : Settings}

theorem get_of_merged (h : s.Current) {es : Entries Value}
    (he : merged s.limits.levels s.layers = .ok es) (key : String) (default : Value) :
    (s.get key default).1 = .ok ((find? (steps key) (.table es)).getD default) := by
  rw [get, ask_fst h, he]
  rfl

theorem get_of_not_fit (h : s.Current) (hl : ∀ l ∈ s.layers, l.IsTable)
    (hf : ¬ Fit s.limits.levels s.layers) (key : String) (default : Value) : (s.get key default).1 = .error .tooDeep := by
  rw [get, ask_fst h, merged_of_not_fit hl hf]
  rfl

end SceneMarkup.Settings
