import SceneMarkup.CommandLine.Invocation
import SceneMarkup.Proofs.Setting.Ranking
import SceneMarkup.Proofs.Setting.Reordering
import SceneMarkup.Proofs.Setting.Writing

/-! # Settings read as integers

Whatever stands under a key is read as an integer, or replaced by the default, except for an
infinite number, which is neither. A variable can hold one: its text is read as a number where
that is possible.
-/

namespace SceneMarkup.Settings

open Setting

def portVariable : String := "OPAL_DEV_PORT"

def portKey : String := "dev.port"

variable {s t : Settings} {d : Int} {v : Value} {m : Misuse}

/-! ### Integers of values -/

/-- A value gives an integer exactly when it is no infinite number. -/
theorem exists_integerOf_iff (d : Int) (v : Value) :
    (∃ i, integerOf (.integer d) v = .ok (.integer i)) ↔
      ∀ negative, v ≠ .binary (.infinite negative) := by
  cases v with
  | binary x => cases x <;> simp [integerOf, Number.Binary64.truncate?]
  | text s => cases h : Number.readInt s <;> simp [integerOf, h]
  | _ => simp [integerOf]

theorem misuse_of_integerOf (h : integerOf (.integer d) v = .error m) : m = .infiniteInteger := by
  cases v with
  | binary x =>
    cases x with
    | infinite negative => exact (Except.error.inj h).symm
    | _ => cases h
  | _ => cases h

theorem laidOver_eq_binary_iff {below : Option Value} {x : Number.Binary64} :
    laidOver below v = .binary x ↔ v = .binary x := by
  rcases table_or_ne v with ⟨es, rfl⟩ | hne
  · obtain ⟨es', he⟩ := exists_laidOver_table below es
    simp [he]
  · rw [laidOver_of_ne hne]

/-! ### Answers -/

theorem getInt_eq (h : s.Current) (key : String) (default : Value) :
    (s.getInt key default).1 = (s.get key default).1 >>= integerOf default := by
  rw [getInt, get, ask_fst h, ask_fst h, bind_assoc]
  rfl

/-- A key gives an integer exactly when no layer is too deep and no infinite number stands under
the key. -/
theorem exists_getInt_iff (h : s.Current) (hl : ∀ l ∈ s.layers, l.IsTable) (key : String)
    (d : Int) :
    (∃ i, (s.getInt key (.integer d)).1 = .ok (.integer i)) ↔ Fit s.limits.levels s.layers ∧
      ∀ negative, (s.get key (.integer d)).1 ≠ .ok (.binary (.infinite negative)) := by
  rw [getInt_eq h]
  by_cases hf : Fit s.limits.levels s.layers
  · obtain ⟨es, he⟩ := exists_merged hl hf
    rw [get_of_merged h he]
    change (∃ i, integerOf (.integer d) _ = .ok (.integer i)) ↔ _
    simpa [hf] using exists_integerOf_iff d _
  · rw [get_of_not_fit h hl hf]
    simpa [hf] using fun i => nofun

theorem misuse_of_getInt (h : s.Current) (hl : ∀ l ∈ s.layers, l.IsTable) {key : String}
    (hm : (s.getInt key (.integer d)).1 = .error m) : m = .infiniteInteger ∨ m = .tooDeep := by
  rw [getInt_eq h] at hm
  by_cases hf : Fit s.limits.levels s.layers
  · obtain ⟨es, he⟩ := exists_merged hl hf
    rw [get_of_merged h he] at hm
    exact .inl (misuse_of_integerOf hm)
  · rw [get_of_not_fit h hl hf] at hm
    exact .inr (Except.error.inj hm).symm

/-! ### The port -/

theorem steps_portKey : steps portKey = ["dev", "port"] := rfl

theorem addEnvironment_port (s : Settings) (text : String) :
    s.addEnvironment [(portVariable, text)] =
      .ok (s.addLayer "env" (spread ["dev", "port"] (valueOfText s.limits.dialect text)) 100) := by
  have hk : override? s.limits.dialect (portVariable, text) =
      some (portKey, valueOfText s.limits.dialect text) := by
    rw [override?, show keyOfVariable? portVariable = some portKey from rfl]
    rfl
  have ho : overrides s.limits.dialect [(portVariable, text)] =
      [(portKey, valueOfText s.limits.dialect text)] := by
    rw [overrides_eq (by simp)]
    simp [given, hk, Entries.ofList, Entries.update, Entries.put]
  have hn : nest [(portKey, valueOfText s.limits.dialect text)] =
      .ok (spread ["dev", "port"] (valueOfText s.limits.dialect text)) := by
    rw [nest, List.foldlM_cons, steps_portKey, assign_table_nil _ (by simp)]
    rfl
  rw [addEnvironment, ho]
  dsimp only
  rw [hn]

theorem isTable_port (dialect : Json.Dialect) (text : String) :
    Layer.IsTable ⟨"env", spread ["dev", "port"] (valueOfText dialect text), 100⟩ := by
  constructor
  · exact ⟨_, rfl⟩
  · refine distinct_table.mpr ⟨by simp, ?_⟩
    simpa [spread, distinct_table] using distinct_of_keyed (keyed_valueOfText dialect text)

theorem isTable_of_mem_port (hl : ∀ l ∈ s.layers, l.IsTable) (text : String) :
    ∀ l ∈ (s.addLayer "env" (spread ["dev", "port"] (valueOfText s.limits.dialect text)) 100).layers,
      l.IsTable := by
  intro l h
  rcases List.mem_append.mp h with h | h
  · exact hl l h
  · exact List.mem_singleton.mp h ▸ isTable_port _ text

/-- On top of layers of no higher priority, the value of the variable's text stands under the key,
laid over what the layers have there. -/
theorem get_port (hl : ∀ l ∈ s.layers, l.IsTable)
    (hp : ∀ l ∈ s.layers, l.priority ≤ 100) {text : String}
    (ht : t = s.addLayer "env" (spread ["dev", "port"] (valueOfText s.limits.dialect text)) 100)
    (hf : Fit t.limits.levels t.layers) (default : Value) :
    ∃ below, (t.get portKey default).1 = .ok (laidOver below (valueOfText s.limits.dialect text)) := by
  subst ht
  obtain ⟨lower, es, -, hm, he⟩ :=
    exists_merged_of_top (isTable_of_mem_port hl text) hf hp (by simp)
  have hd : Distinct (spread ["dev", "port"] (valueOfText s.limits.dialect text)) :=
    (isTable_port _ text).distinct
  have hv : find? ["dev", "port"] (spread ["dev", "port"] (valueOfText s.limits.dialect text)) =
      some (valueOfText s.limits.dialect text) := find?_nil _
  rw [get_of_merged (current_of_view_eq_none rfl) hm, he, steps_portKey]
  exact ⟨_, by rw [find?_laidOver_of_some hd hv, Option.getD_some]⟩

/-- Settings of tables answer a key with an integer, unless an infinite number stands under it or
a layer is too deep, and fail in these cases only. So a text of the port's variable leads to an
integer unless it denotes an infinite number. -/
theorem getInt_yields_integer (hs : s.Reached) (hl : ∀ l ∈ s.layers, l.IsTable) :
    (∀ key d, ((∃ i, (s.getInt key (.integer d)).1 = .ok (.integer i)) ↔
        Fit s.limits.levels s.layers ∧
          ∀ negative, (s.get key (.integer d)).1 ≠ .ok (.binary (.infinite negative))) ∧
      ∀ m, (s.getInt key (.integer d)).1 = .error m → m = .infiniteInteger ∨ m = .tooDeep) ∧
    ((∀ l ∈ s.layers, l.priority ≤ 100) → ∀ text, ∃ t,
      s.addEnvironment [(portVariable, text)] = .ok t ∧
      ((∃ i, (t.getInt portKey (.integer CommandLine.standardTcpPort)).1 = .ok (.integer i)) ↔
        Fit t.limits.levels t.layers ∧
          ∀ negative, valueOfText s.limits.dialect text ≠ .binary (.infinite negative))) := by
  constructor
  · intro key d
    exact ⟨exists_getInt_iff hs.current hl key d, fun m => misuse_of_getInt hs.current hl⟩
  · intro hp text
    refine ⟨_, addEnvironment_port s text, ?_⟩
    rw [exists_getInt_iff (current_of_view_eq_none rfl) (isTable_of_mem_port hl text)]
    refine and_congr_right fun hf => forall_congr' fun negative => ?_
    obtain ⟨below, hb⟩ := get_port hl hp rfl hf (.integer CommandLine.standardTcpPort)
    rw [hb, ne_eq, Except.ok.injEq, laidOver_eq_binary_iff]

theorem reached_standard : (ofDefaults ample standard).Reached :=
  ⟨ample, [.create (some standard)], rfl⟩

theorem isTable_of_mem_standard {l : Layer} (h : l ∈ (ofDefaults ample standard).layers) :
    l.IsTable := by
  obtain rfl := List.mem_singleton.mp h
  exact ⟨⟨_, rfl⟩, by simp [distinct_table, distinct_of_ne, standard]⟩

theorem fit_port {text : String} {x : Number.Binary64}
    (h : valueOfText ample.dialect text = .binary x) :
    Fit ample.levels ((ofDefaults ample standard).addLayer "env"
      (spread ["dev", "port"] (valueOfText ample.dialect text)) 100).layers := by
  intro l hl
  rcases List.mem_pair.mp hl with rfl | rfl
  · decide
  · rw [levels_spread, h]
    exact Nat.le_of_ble_eq_true rfl

theorem getInt_yields_integer_rounded :
    (ofDefaults ample standard).Reached ∧ (∀ l ∈ (ofDefaults ample standard).layers, l.IsTable) ∧
    (∀ l ∈ (ofDefaults ample standard).layers, l.priority ≤ 100) ∧
    ∃ t, (ofDefaults ample standard).addEnvironment [(portVariable, "3000.75")] = .ok t ∧
      ∃ i, (t.getInt portKey (.integer CommandLine.standardTcpPort)).1 = .ok (.integer i) := by
  have hl : ∀ l ∈ (ofDefaults ample standard).layers, l.IsTable := fun l => isTable_of_mem_standard
  have hp : ∀ l ∈ (ofDefaults ample standard).layers, l.priority ≤ 100 := by
    intro l h
    obtain rfl := List.mem_singleton.mp h
    decide
  have hv : valueOfText (ofDefaults ample standard).limits.dialect "3000.75" =
      .binary (.finite false 6598719034097664 (-41)) := by rfl
  obtain ⟨t, ht, hi⟩ := (getInt_yields_integer reached_standard hl).2 hp "3000.75"
  obtain rfl := Except.ok.inj ((addEnvironment_port _ _).symm.trans ht)
  exact ⟨reached_standard, hl, hp, _, ht, hi.mpr ⟨fit_port hv, by simp [hv]⟩⟩

/-- An infinite port is no integer, and is not replaced by the standard one either. -/
theorem not_getInt_integer : ∃ t,
    (ofDefaults ample standard).addEnvironment [(portVariable, "inf")] = .ok t ∧
    (∀ l ∈ t.layers, l.IsTable) ∧ Fit t.limits.levels t.layers ∧
    (t.getInt portKey (.integer CommandLine.standardTcpPort)).1 = .error .infiniteInteger := by
  have hl : ∀ l ∈ (ofDefaults ample standard).layers, l.IsTable := fun l => isTable_of_mem_standard
  have hv : valueOfText (ofDefaults ample standard).limits.dialect "inf" =
      .binary (.infinite false) := by rfl
  refine ⟨_, addEnvironment_port _ _, isTable_of_mem_port hl _, fit_port hv, ?_⟩
  obtain ⟨below, hb⟩ := get_port hl (by decide) rfl (fit_port hv)
    (.integer CommandLine.standardTcpPort)
  rw [getInt_eq (current_of_view_eq_none rfl), hb, laidOver_eq_binary_iff.mpr hv]
  rfl

end SceneMarkup.Settings
