import SceneMarkup.Proofs.Setting.Ranking
import SceneMarkup.Proofs.Setting.Writing

/-! # The layer of what is set at run time

While the layer of what is set at run time stands on top of all others, what is set under a key is
the answer to it, and a write changes the answer to no key apart from its own, whatever the lower
layers hold on the way.
-/

namespace SceneMarkup.Setting

open Settings (runtimeName runtimePriority)

open Value (Keyed)

/-- The data is a table, and every table in it has distinct keys. -/
structure IsData (data : Value) : Prop where
  table : ∃ es, data = .table es
  keyed : Keyed data

structure IsLower (l : Layer) : Prop where
  name : l.name ≠ runtimeName
  priority : l.priority < runtimePriority
  data : IsData l.data

def runtimeLayers (data : Option Value) : List Layer :=
  (data.map fun data => ⟨runtimeName, data, runtimePriority⟩).toList

def runtimeData (data : Option Value) : Value := data.getD (.table [])

/-- The layers before and behind the one that is written to at run time. A new one goes behind all
others. -/
def around (before after : List Layer) : Option Value → List Layer × List Layer
  | some _ => (before, after)
  | none => (before ++ after, [])

/-- The data set at run time, if there is any, stands on top of the layers around it. -/
structure Tops (layers before after : List Layer) (data : Option Value) : Prop where
  layers : layers = before ++ (runtimeLayers data ++ after)
  lower : ∀ l ∈ before ++ after, IsLower l
  data : ∀ d, data = some d → IsData d

variable {layers layers' before after before' after' : List Layer} {data data' : Option Value}
  {l : Layer} {d v : Value} {key : String} {levels : Nat} {lower : Entries Value}

/-! ### Data -/

theorem isData_nil : IsData (.table []) := ⟨⟨[], rfl⟩, .table (by simp) (by simp)⟩

theorem IsData.isTable (h : IsData l.data) : l.IsTable := ⟨h.table, distinct_of_keyed h.keyed⟩

theorem IsData.isLower {name : String} {priority : Int} (h : IsData d) (hn : name ≠ runtimeName)
    (hp : priority < runtimePriority) : IsLower ⟨name, d, priority⟩ := ⟨hn, hp, h⟩

theorem IsData.assign (h : IsData d) (hv : Keyed v) {d' : Value}
    (ha : assign v (steps key) d = .ok d') : IsData d' := by
  constructor
  · obtain ⟨p, ps, hp⟩ := List.exists_cons_of_ne_nil (steps_ne_nil key)
    rw [hp] at ha
    obtain ⟨es, inner, -, -, rfl⟩ := assign_cons_ok ha
    exact ⟨_, rfl⟩
  · exact keyed_assign h.keyed hv ha

theorem isData_of_nest {flat : Entries Value} {t : Value} (hv : ∀ e ∈ flat, Keyed e.2)
    (h : nest flat = .ok t) : IsData t := by
  induction flat using List.reverseRecOn generalizing t with
  | nil =>
    obtain rfl := Except.ok.inj h
    exact isData_nil
  | append_singleton flat e ih =>
    obtain ⟨u, hu, ha⟩ := nest_concat_ok h
    exact (ih (fun e he => hv e (by simp [he])) hu).assign (hv e (by simp)) ha

/-! ### Layers -/

theorem tops_nil : Tops [] [] [] none := ⟨rfl, by simp, by simp⟩

@[simp] theorem around_append (before after : List Layer) (data : Option Value) :
    (around before after data).1 ++ (around before after data).2 = before ++ after := by
  cases data <;> simp [around]

theorem Tops.data? (h : Tops layers before after data) : IsData (runtimeData data) := by
  cases data with
  | none => exact isData_nil
  | some d => exact h.data d rfl

theorem Tops.concat (h : Tops layers before after data) (hl : IsLower l) :
    Tops (layers ++ [l]) before (after ++ [l]) data := by
  constructor
  · simp [h.layers]
  · intro m hm
    rw [← List.append_assoc, List.mem_append, List.mem_singleton] at hm
    rcases hm with hm | rfl
    · exact h.lower m hm
    · exact hl
  · exact h.data

theorem Tops.assign (h : Tops layers before after data) (hv : Keyed v) {w : Value}
    (ha : Setting.assign v (steps key) (runtimeData data) = .ok w) :
    Tops ((around before after data).1 ++ (runtimeLayers (some w) ++ (around before after data).2))
      (around before after data).1 (around before after data).2 (some w) := by
  refine ⟨rfl, around_append before after data ▸ h.lower, ?_⟩
  rintro _ ⟨⟩
  exact h.data?.assign hv ha

theorem Tops.isTable (h : Tops layers before after data) : ∀ l ∈ layers, l.IsTable := by
  intro l hl
  rw [h.layers, List.mem_append, List.mem_append] at hl
  rcases hl with hl | hl | hl
  · exact (h.lower l (by simp [hl])).data.isTable
  · cases data with
    | none => cases hl
    | some d =>
      obtain rfl := List.mem_singleton.mp hl
      exact (h.data d rfl).isTable
  · exact (h.lower l (by simp [hl])).data.isTable

theorem Tops.fit (h : Tops layers before after data) (hf : Fit levels layers) :
    Fit levels (before ++ after) ∧ ∀ d, data = some d → d.levels ≤ levels := by
  rw [h.layers] at hf
  constructor
  · intro l hl
    apply hf l
    simp only [List.mem_append] at hl ⊢
    tauto
  · rintro d rfl
    exact hf ⟨runtimeName, d, runtimePriority⟩ (by simp [runtimeLayers])

/-! ### Writes -/

theorem Tops.name_ne (h : Tops layers before after data) :
    ∀ l ∈ before ++ after, l.name ≠ runtimeName :=
  fun l hl => (h.lower l hl).name

theorem Tops.any_runtime (h : Tops layers before after data) :
    layers.any (·.name == runtimeName) = data.isSome := by
  have hn := h.name_ne
  rw [h.layers]
  cases data with
  | none => simpa [runtimeLayers, List.any_eq_false, or_imp, forall_and] using hn
  | some d => simp [runtimeLayers]

theorem Tops.set {s : Settings} (h : Tops s.layers before after data) (key : String) (v : Value) :
    (∀ e, Setting.assign v (steps key) (runtimeData data) = .error e →
      s.set key v = (.error e, s)) ∧
    ∀ w, Setting.assign v (steps key) (runtimeData data) = .ok w →
      s.set key v = (.ok (), ⟨s.limits, (around before after data).1 ++
        (runtimeLayers (some w) ++ (around before after data).2), none⟩) := by
  have ha := h.any_runtime
  cases data with
  | none =>
    obtain ⟨w, hw, hs⟩ := Settings.set_of_new (s := s) key v (by simp [ha])
    refine ⟨fun e he => ?_, fun w' hw' => ?_⟩
    · cases hw.symm.trans he
    · obtain rfl := Except.ok.inj (hw.symm.trans hw')
      simp [hs, h.layers, runtimeLayers, around]
  | some d =>
    have hb : ∀ l ∈ before, l.name ≠ runtimeName := fun l hl => h.name_ne l (by simp [hl])
    have hl : s.layers = before ++ ⟨runtimeName, d, runtimePriority⟩ :: after := h.layers
    have hr := Settings.assignIn_append (steps key) v hb d runtimePriority after
    rw [← hl] at hr
    rw [runtimeData, Option.getD_some]
    rcases Settings.set_of_old key v (show s.layers.any (·.name == runtimeName) from ha) with
      ⟨layers, hi, hs⟩ | ⟨e, hi, hs⟩
    · refine ⟨fun e he => ?_, fun w hw => ?_⟩
      · rw [he] at hr
        cases hr.symm.trans hi
      · rw [hw] at hr
        obtain rfl := Except.ok.inj (Option.some.inj (hr.symm.trans hi))
        exact hs
    · refine ⟨fun e' he => ?_, fun w hw => ?_⟩
      · rw [he] at hr
        obtain rfl := Except.error.inj (Option.some.inj (hr.symm.trans hi))
        exact hs
      · rw [hw] at hr
        cases hr.symm.trans hi

/-! ### Answers -/

/-- What is set at run time is merged last. -/
theorem Tops.merged_eq (h : Tops layers before after data) (hf : Fit levels layers)
    (hl : merged levels (before ++ after) = .ok lower) :
    ∃ t, merged levels layers = .ok t ∧
      .table t = laidOver (some (.table lower)) (runtimeData data) := by
  cases data with
  | none =>
    have hs : layers = before ++ after := by simp [h.layers, runtimeLayers]
    exact ⟨lower, hs ▸ hl, by simp [runtimeData, laidOver, overlay_table, overlayEntries]⟩
  | some d =>
    obtain ⟨es, rfl⟩ := (h.data d rfl).table
    refine ⟨overlayEntries lower es, ?_, (overlay_table lower es).symm⟩
    have hs : layers = before ++ ⟨runtimeName, .table es, runtimePriority⟩ :: after := h.layers
    rw [hs, merged_append_cons (fun l hl => Int.le_of_lt (h.lower l (by simp [hl])).priority)
      (fun l hl => (h.lower l (List.mem_append_right before hl)).priority), hl]
    have hd : ¬ (Value.table es).levels > levels := Nat.not_lt.mpr ((h.fit hf).2 _ rfl)
    change addLayer levels lower ⟨runtimeName, .table es, runtimePriority⟩ = _
    rw [addLayer, if_neg hd]

theorem Tops.answer_eq (h : Tops layers before after data) (hf : Fit levels layers)
    (hl : merged levels (before ++ after) = .ok lower) (key : String) :
    answer levels layers key =
      .ok (find? (steps key) (laidOver (some (.table lower)) (runtimeData data))) := by
  obtain ⟨t, hm, ht⟩ := h.merged_eq hf hl
  rw [answer, hm, ← ht]
  rfl

theorem Tops.answer_of_not_fit (h : Tops layers before after data) (hf : ¬ Fit levels layers)
    (key : String) : answer levels layers key = .error .tooDeep := by
  rw [answer, merged_of_not_fit h.isTable hf]
  rfl

/-- A value that is set at run time, and is no table, is the answer to its key. -/
theorem Tops.answer_of_find? (h : Tops layers before after data) (hf : Fit levels layers)
    (hw : find? (steps key) (runtimeData data) = some v) (hv : ∀ es, v ≠ .table es) :
    answer levels layers key = .ok (some v) := by
  obtain ⟨lower, hm⟩ := exists_merged (fun l hl => (h.lower l hl).data.isTable) (h.fit hf).1
  rw [h.answer_eq hf hm, find?_laidOver_of_some (distinct_of_keyed h.data?.keyed) hw,
    laidOver_of_ne hv]

/-- Over the same lower layers, a key is answered alike when what is set at run time leads it to the
same, and blocks it alike. -/
theorem Tops.answer_congr (h : Tops layers before after data)
    (h' : Tops layers' before' after' data') (hl : before' ++ after' = before ++ after)
    (hf : Fit levels layers ↔ Fit levels layers')
    (hw : find? (steps key) (runtimeData data') = find? (steps key) (runtimeData data))
    (hb : Blocks (runtimeData data') (steps key) ↔ Blocks (runtimeData data) (steps key)) :
    answer levels layers' key = answer levels layers key := by
  by_cases hfs : Fit levels layers
  · have hfs' := hf.mp hfs
    obtain ⟨lower, he⟩ := exists_merged (fun l hl => (h.lower l hl).data.isTable) (h.fit hfs).1
    rw [h.answer_eq hfs he, h'.answer_eq hfs' (hl ▸ he),
      find?_laidOver_congr (distinct_of_keyed h'.data?.keyed) (distinct_of_keyed h.data?.keyed)
        hw hb]
  · rw [h'.answer_of_not_fit (mt hf.mpr hfs), h.answer_of_not_fit hfs]

end SceneMarkup.Setting
