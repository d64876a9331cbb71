import Mathlib.Data.List.Induction
import SceneMarkup.Proofs.Setting.Overlay
import SceneMarkup.Proofs.Value.Sameness
import SceneMarkup.Setting.Table

/-! # What layers lead to

Of the layers that decide a path, the topmost one settles what it leads to in all of them: nothing
where that layer blocks it, the value to which it leads there, or a table whose entries are settled
in the same way. The layers are laid over each other by priority, so this is an induction on the
layers and then on the table.
-/

namespace SceneMarkup.Setting

/-- The layer is a table, and every table in it has distinct keys. -/
structure Layer.IsTable (l : Layer) : Prop where
  table : ∃ es, l.data = .table es
  distinct : Distinct l.data

/-- The layer leads the path somewhere, or blocks it. -/
def Layer.Decides (l : Layer) (path : List String) : Prop :=
  (∃ v, find? path l.data = some v) ∨ Blocks l.data path

/-- Of the layers that decide the path, the one of the highest priority, and the last of these. -/
def Topmost (layers : List Layer) (path : List String) (l : Layer) : Prop :=
  ∃ i : Nat, layers[i]? = some l ∧ l.Decides path ∧
    ∀ (j : Nat) (l' : Layer), layers[j]? = some l' → l'.Decides path →
      l'.priority < l.priority ∨ l'.priority = l.priority ∧ j ≤ i

/-- What a path leads to when the topmost layer that decides it settles that. -/
inductive Resolves (layers : List Layer) : List String → Option Value → Prop where
  | unset {path : List String} : (∀ l ∈ layers, ¬ l.Decides path) → Resolves layers path none
  | blocked {path : List String} {l : Layer} :
      Topmost layers path l → Blocks l.data path → Resolves layers path none
  | value {path : List String} {l : Layer} {v : Value} :
      Topmost layers path l → find? path l.data = some v → (∀ es, v ≠ .table es) →
      Resolves layers path (some v)
  | table {path : List String} {l : Layer} {es es' : Entries Value} :
      Topmost layers path l → find? path l.data = some (.table es) → (Entries.keys es').Nodup →
      (∀ name, Resolves layers (path ++ [name]) (Entries.get? es' name)) →
      Resolves layers path (some (.table es'))

def stacked (layers : List Layer) : Value := layers.foldl (fun v l => overlay v l.data) (.table [])

variable {layers before after : List Layer} {l : Layer} {path : List String} {es : Entries Value}
  {levels : Nat}
  {v : Value}

theorem not_decides_iff : ¬ l.Decides path ↔ Silent l.data path := by
  rw [Layer.Decides, not_or, Silent, ← Option.not_isSome_iff_eq_none, Option.isSome_iff_exists]

theorem stacked_concat (layers : List Layer) (l : Layer) :
    stacked (layers ++ [l]) = laidOver (some (stacked layers)) l.data := by
  simp [stacked, laidOver]

theorem distinct_stacked (h : ∀ l ∈ layers, l.IsTable) : Distinct (stacked layers) := by
  induction layers using List.reverseRecOn with
  | nil =>
    rintro (_ | ⟨p, ps⟩) es he
    · obtain rfl := Value.table.inj (Option.some.inj he)
      exact List.nodup_nil
    · cases he
  | append_singleton layers l ih =>
    rw [stacked_concat]
    refine Distinct.laidOver ?_ (h l (by simp)).distinct
    rintro _ ⟨⟩
    exact ih fun l' hl => h l' (by simp [hl])

/-- In layers laid over each other, the last one that decides a path settles what it leads to. -/
theorem find?_stacked (h : ∀ l ∈ layers, l.IsTable) (hp : path ≠ []) :
    ((∀ l ∈ layers, ¬ l.Decides path) ∧ find? path (stacked layers) = none) ∨
    ∃ before l after, layers = before ++ l :: after ∧ (∀ l' ∈ after, ¬ l'.Decides path) ∧
      (Blocks l.data path ∧ find? path (stacked layers) = none ∨
        ∃ v below, find? path l.data = some v ∧
          find? path (stacked layers) = some (laidOver below v)) := by
  induction layers using List.reverseRecOn with
  | nil =>
    obtain ⟨p, ps, rfl⟩ := List.exists_cons_of_ne_nil hp
    exact .inl ⟨by simp, rfl⟩
  | append_singleton layers l ih =>
    rw [stacked_concat]
    rcases find?_laidOver (h l (by simp)).distinct (some (stacked layers)) path with
      ⟨hb, he⟩ | ⟨v, hv, he⟩ | ⟨hs, he⟩
    · exact .inr ⟨layers, l, [], rfl, by simp, .inl ⟨hb, he⟩⟩
    · exact .inr ⟨layers, l, [], rfl, by simp, .inr ⟨v, _, hv, he⟩⟩
    · have hl := not_decides_iff.mpr hs
      rw [he, Option.bind_some]
      rcases ih fun l' hl => h l' (by simp [hl]) with ⟨hn, he'⟩ | ⟨before, m, after, rfl, ha, he'⟩
      · refine .inl ⟨fun l' hl' => ?_, he'⟩
        rcases List.mem_append.mp hl' with hl' | hl'
        · exact hn l' hl'
        · exact List.mem_singleton.mp hl' ▸ hl
      · refine .inr ⟨before, m, after ++ [l], by simp, fun l' hl' => ?_, he'⟩
        rcases List.mem_append.mp hl' with hl' | hl'
        · exact ha l' hl'
        · exact List.mem_singleton.mp hl' ▸ hl

/-! ### Priorities -/

theorem zipIdxLE_priority_iff {a b : Layer × Nat} :
    List.zipIdxLE (fun l l' : Layer => decide (l.priority ≤ l'.priority)) a b = true ↔
      a.1.priority < b.1.priority ∨ a.1.priority = b.1.priority ∧ a.2 ≤ b.2 := by
  unfold List.zipIdxLE
  by_cases h : a.1.priority ≤ b.1.priority
  · by_cases h' : b.1.priority ≤ a.1.priority
    · simp only [h, h', decide_true, if_true, decide_eq_true_eq]
      omega
    · simp only [h, h', decide_true, decide_false, Bool.false_eq_true, if_true, if_false, true_iff]
      omega
  · simp only [h, decide_false, Bool.false_eq_true, if_false, false_iff]
    omega

/-- Ranking puts layers of lower priority first, and earlier ones where priorities are equal. -/
theorem exists_ranked (layers : List Layer) : ∃ placed : List (Layer × Nat),
    placed.map Prod.fst = ranked layers ∧ placed.Perm layers.zipIdx ∧
    placed.Pairwise fun a b =>
      a.1.priority < b.1.priority ∨ a.1.priority = b.1.priority ∧ a.2 ≤ b.2 := by
  refine ⟨_, List.mergeSort_zipIdx, List.mergeSort_perm .., ?_⟩
  refine (List.pairwise_mergeSort ?_ ?_ _).imp fun h => zipIdxLE_priority_iff.mp h
  · intro a b c hab hbc
    have := zipIdxLE_priority_iff.mp hab
    have := zipIdxLE_priority_iff.mp hbc
    exact zipIdxLE_priority_iff.mpr (by omega)
  · intro a b
    rw [Bool.or_eq_true, zipIdxLE_priority_iff, zipIdxLE_priority_iff]
    omega

/-- The last layer of the ranking that decides a path is the topmost one. -/
theorem topmost_of_ranked (he : ranked layers = before ++ l :: after) (hl : l.Decides path)
    (ha : ∀ l' ∈ after, ¬ l'.Decides path) : Topmost layers path l := by
  obtain ⟨placed, hm, hp, ho⟩ := exists_ranked layers
  obtain ⟨front, rest, rfl, rfl, hr⟩ := List.map_eq_append_iff.mp (hm.trans he)
  obtain ⟨⟨l, i⟩, back, rfl, rfl, rfl⟩ := List.map_eq_cons_iff.mp hr
  have place {l' : Layer} {j : Nat} :
      (l', j) ∈ front ++ (l, i) :: back ↔ layers[j]? = some l' := by
    rw [hp.mem_iff, List.mem_zipIdx_iff_getElem?]
  refine ⟨i, place.mp (by simp), hl, fun j l' hj hd => ?_⟩
  rcases List.mem_append.mp (place.mpr hj) with hf | hb
  · exact (List.pairwise_append.mp ho).2.2 _ hf _ List.mem_cons_self
  · rcases List.mem_cons.mp hb with he | hb
    · obtain ⟨rfl, rfl⟩ := Prod.mk.inj he
      exact .inr ⟨rfl, Nat.le_refl j⟩
    · exact absurd hd (ha l' (List.mem_map_of_mem hb))

theorem ranked_perm (layers : List Layer) : (ranked layers).Perm layers := List.mergeSort_perm ..

/-! ### Resolution -/

/-- How many values stand inside one another in what a path leads to. -/
def reach (answer : Option Value) : Nat := answer.elim 0 Value.levels

/-- A path leads to what the topmost layer settles. -/
theorem resolves_find? (h : ∀ l ∈ layers, l.IsTable) (hp : path ≠ []) :
    Resolves layers path (find? path (stacked (ranked layers))) := by
  have hr : ∀ l ∈ ranked layers, l.IsTable := fun l hl => h l ((ranked_perm layers).mem_iff.mp hl)
  induction hn : reach (find? path (stacked (ranked layers))) using Nat.strongRecOn
    generalizing path with
  | _ n ih =>
    rcases find?_stacked hr hp with ⟨hs, he⟩ | ⟨before, l, after, hl, ha, ⟨hb, he⟩ | ⟨v, below, hv, he⟩⟩
    · rw [he]
      exact .unset fun l hl => hs l ((ranked_perm layers).mem_iff.mpr hl)
    · rw [he]
      exact .blocked (topmost_of_ranked hl (.inr hb) ha) hb
    · have ht : Topmost layers path l := topmost_of_ranked hl (.inl ⟨v, hv⟩) ha
      rcases table_or_ne v with ⟨es, rfl⟩ | hne
      · obtain ⟨es', hes⟩ := exists_laidOver_table below es
        rw [hes] at he
        rw [he]
        refine .table ht hv (distinct_stacked hr path es' he) fun name => ?_
        have hq : find? (path ++ [name]) (stacked (ranked layers)) = Entries.get? es' name := by
          rw [find?_append, he, Option.bind_some, find?_cons_table]
          simp [funext find?_nil]
        rw [← hq]
        refine ih _ ?_ (by simp) rfl
        rw [← hn, hq, he]
        cases hg : Entries.get? es' name with
        | none => exact Value.levels_pos _
        | some w => exact Value.levels_lt_of_get? hg
      · rw [laidOver_of_ne hne] at he
        rw [he]
        exact .value ht hv hne

/-! ### Merging -/

theorem foldlM_addLayer (h : ∀ l ∈ layers, l.IsTable)
    (hd : ∀ l ∈ layers, l.data.levels ≤ levels) (bs : Entries Value) :
    ∃ t, layers.foldlM (addLayer levels) bs = .ok t ∧
      layers.foldl (fun v l => overlay v l.data) (.table bs) = .table t := by
  induction layers generalizing bs with
  | nil => exact ⟨bs, rfl, rfl⟩
  | cons l ls ih =>
    obtain ⟨es, he⟩ := (h l (by simp)).table
    have ha : addLayer levels bs l = .ok (overlayEntries bs es) := by
      rw [addLayer, if_neg (Nat.not_lt.mpr (hd l (by simp))), he]
    obtain ⟨t, ht, hf⟩ := ih (fun l' hl => h l' (by simp [hl])) (fun l' hl => hd l' (by simp [hl]))
      (overlayEntries bs es)
    refine ⟨t, ?_, ?_⟩
    · rw [List.foldlM_cons, ha]
      exact ht
    · rw [List.foldl_cons, he, overlay_table, hf]

theorem foldlM_addLayer_of_deep (h : ∀ l ∈ layers, l.IsTable)
    (hd : ∃ l ∈ layers, levels < l.data.levels) (bs : Entries Value) :
    layers.foldlM (addLayer levels) bs = .error .tooDeep := by
  induction layers generalizing bs with
  | nil => simp at hd
  | cons l ls ih =>
    rw [List.foldlM_cons, addLayer]
    split
    · rfl
    · next hl =>
      obtain ⟨es, he⟩ := (h l (by simp)).table
      rw [he]
      refine ih (fun l' hl' => h l' (by simp [hl'])) ?_ _
      obtain ⟨l', hm, hl'⟩ := hd
      rcases List.mem_cons.mp hm with rfl | hm
      · exact absurd hl' hl
      · exact ⟨l', hm, hl'⟩

end SceneMarkup.Setting
