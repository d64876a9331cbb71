import SceneMarkup.Proofs.Setting.Reordering
import SceneMarkup.Proofs.Setting.Writing

/-! # What an environment stores

The value of a variable's text stands under the path of the variable's key, unless a later write
runs into that path, and nothing stands anywhere else. Variables that hold no setting have no part
in this.
-/

namespace SceneMarkup.Setting

/-- A variable holds a setting when its name starts with the common prefix. -/
def HoldsSetting (x : String × String) : Prop := ∃ rest, x.1 = variablePrefix ++ rest

/-- The key that the rest of a variable's name gives: in lower case, with dots for underscores. -/
def dotted (rest : String) : String :=
  String.ofList ((Text.lower rest).toList.map fun c => if c = '_' then '.' else c)

/-- The data in which an environment stores what it overrides. -/
structure Stores (dialect : Json.Dialect) (environment : List (String × String)) (data : Value) :
    Prop where
  inhabited : ∃ x ∈ environment, HoldsSetting x
  kept : ∀ before rest text after,
    environment = before ++ (variablePrefix ++ rest, text) :: after →
    (∀ rest' text', (variablePrefix ++ rest', text') ∈ before ++ after →
      dotted rest' ≠ dotted rest) →
    (∀ rest' text', (variablePrefix ++ rest', text') ∈ after →
      Apart (steps (dotted rest)) (steps (dotted rest'))) →
    find? (steps (dotted rest)) data = some (valueOfText dialect text)
  confined : ∀ path v, find? path data = some v →
    ∃ rest text, (variablePrefix ++ rest, text) ∈ environment ∧
      (path <+: steps (dotted rest) ∨ steps (dotted rest) <+: path)

variable {dialect : Json.Dialect} {environment environment' : List (String × String)}
  {x : String × String}
  {e : String × Value} {flat before after : Entries Value} {path : List String} {t v : Value}
  {rest text name key : String}

/-! ### Nested keys -/

/-- A value stays under its path when the paths of all later keys are apart from it. -/
theorem find?_nest (h : nest (before ++ e :: after) = .ok t)
    (ha : ∀ d ∈ after, Apart (steps d.1) (steps e.1)) : find? (steps e.1) t = some e.2 := by
  induction after using List.reverseRecOn generalizing t with
  | nil =>
    obtain ⟨u, -, hu⟩ := nest_concat_ok h
    exact find?_assign hu
  | append_singleton after d ih =>
    rw [← List.cons_append, ← List.append_assoc] at h
    obtain ⟨u, hn, hu⟩ := nest_concat_ok h
    rw [find?_assign_of_apart hu (ha d (by simp))]
    exact ih hn fun c hc => ha c (by simp [hc])

/-- Where keys are nested, a path leads somewhere only along the path of a key. -/
theorem exists_of_find?_nest (h : nest flat = .ok t) (hp : path ≠ [])
    (hv : find? path t = some v) : ∃ e ∈ flat, path <+: steps e.1 ∨ steps e.1 <+: path := by
  induction flat using List.reverseRecOn generalizing t with
  | nil =>
    obtain rfl := Except.ok.inj h
    obtain ⟨p, ps, rfl⟩ := List.exists_cons_of_ne_nil hp
    cases hv
  | append_singleton flat e ih =>
    obtain ⟨u, hn, hu⟩ := nest_concat_ok h
    by_cases ha : Apart (steps e.1) path
    · rw [find?_assign_of_apart hu ha] at hv
      obtain ⟨d, hd, hpd⟩ := ih hn hv
      exact ⟨d, by simp [hd], hpd⟩
    · refine ⟨e, by simp, ?_⟩
      rw [Apart, not_and_or, not_not, not_not] at ha
      exact ha.symm

/-! ### Variables -/

theorem keyOfVariable?_append (rest : String) :
    keyOfVariable? (variablePrefix ++ rest) = some (dotted rest) := by
  have hp : variablePrefix.toList.isPrefixOf (variablePrefix.toList ++ rest.toList) := by simp
  simp only [keyOfVariable?, String.toList_append, hp, if_true, List.drop_left,
    String.ofList_toList]
  simp [dotted]

theorem holdsSetting_iff : HoldsSetting x ↔ variablePrefix.toList.isPrefixOf x.1.toList := by
  rw [List.isPrefixOf_iff_prefix]
  constructor
  · rintro ⟨rest, h⟩
    exact ⟨rest.toList, by rw [h, String.toList_append]⟩
  · rintro ⟨cs, h⟩
    exact ⟨String.ofList cs, by rw [← String.toList_inj, String.toList_append, ← h]; simp⟩

theorem override?_eq_none_iff : override? dialect x = none ↔ ¬ HoldsSetting x := by
  constructor
  · rintro h ⟨rest, hx⟩
    rw [override?, hx, keyOfVariable?_append] at h
    cases h
  · intro h
    rw [holdsSetting_iff] at h
    rw [override?, keyOfVariable?, if_neg h]
    rfl

theorem override?_append (rest text : String) :
    override? dialect (variablePrefix ++ rest, text) =
      some (dotted rest, valueOfText dialect text) := by
  rw [override?, keyOfVariable?_append]
  rfl

theorem exists_of_override? (h : override? dialect x = some e) : ∃ rest text,
    x = (variablePrefix ++ rest, text) ∧ e = (dotted rest, valueOfText dialect text) := by
  obtain ⟨name, text⟩ := x
  have hx : HoldsSetting (name, text) := by
    by_contra hn
    cases h.symm.trans (override?_eq_none_iff.mpr hn)
  obtain ⟨rest, rfl⟩ : ∃ rest, name = variablePrefix ++ rest := hx
  exact ⟨rest, text, rfl, Option.some.inj (h.symm.trans (override?_append rest text))⟩

theorem exists_of_mem_given (h : e ∈ given dialect environment) : ∃ rest text,
    (variablePrefix ++ rest, text) ∈ environment ∧ e = (dotted rest, valueOfText dialect text) := by
  obtain ⟨x, hx, ho⟩ := List.mem_filterMap.mp h
  obtain ⟨rest, text, rfl, rfl⟩ := exists_of_override? ho
  exact ⟨rest, text, hx, rfl⟩

theorem overrides_eq_nil (hn : (environment.map Prod.fst).Nodup) :
    overrides dialect environment = [] ↔ ∀ x ∈ environment, ¬ HoldsSetting x := by
  have hk : overrides dialect environment = [] ↔ given dialect environment = [] := by
    rw [overrides_eq hn, List.eq_nil_iff_forall_not_mem, List.eq_nil_iff_forall_not_mem]
    constructor
    · intro h e he
      have hm := Entries.mem_keys_ofList.mpr (List.mem_map_of_mem (f := Prod.fst) he)
      obtain ⟨d, hd, -⟩ := List.mem_map.mp hm
      exact h d hd
    · exact fun h e he => h e (Entries.mem_of_mem_ofList he)
  rw [hk, given, List.filterMap_eq_nil_iff]
  simp only [override?_eq_none_iff]

theorem given_filter (environment : List (String × String)) :
    given dialect (environment.filter fun x => variablePrefix.toList.isPrefixOf x.1.toList) =
      given dialect environment := by
  rw [given, given, List.filterMap_filter]
  refine List.filterMap_congr fun x _ => ?_
  split
  · rfl
  · next h => exact (override?_eq_none_iff.mpr (mt holdsSetting_iff.mp h)).symm

theorem mem_of_sublist {before after : List (String × String)} {y : String × String}
    (hx : x ∉ before) (h : [x, y].Sublist (before ++ x :: after)) : y ∈ after := by
  obtain ⟨l, l', hl, hb, ha⟩ := List.sublist_append_iff.mp h
  cases l with
  | nil =>
    obtain rfl : [x, y] = l' := hl
    cases ha with
    | cons _ ha => exact ha.subset (by simp)
    | cons_cons _ ha => exact ha.subset (by simp)
  | cons z l =>
    obtain ⟨rfl, -⟩ := List.cons.inj hl
    exact absurd (hb.subset List.mem_cons_self) hx

theorem mem_ofList_given {before after : List (String × String)}
    (he : environment = before ++ (variablePrefix ++ rest, text) :: after)
    (hu : ∀ rest' text', (variablePrefix ++ rest', text') ∈ after → dotted rest' ≠ dotted rest) :
    (dotted rest, valueOfText dialect text) ∈ Entries.ofList (given dialect environment) := by
  refine Entries.mem_ofList_iff.mpr ⟨given dialect before, given dialect after, ?_, ?_⟩
  · rw [he, given, List.filterMap_append, List.filterMap_cons, override?_append]
    rfl
  · intro hk
    obtain ⟨e, hg, hk⟩ := List.mem_map.mp hk
    obtain ⟨rest', text', hm, rfl⟩ := exists_of_mem_given hg
    exact hu rest' text' hm hk

/-- The overrides that follow the one of a variable whose key no other variable has come from
later variables. -/
theorem mem_after_of_override {before after : List (String × String)} {front back : Entries Value}
    {d : String × Value} (hn : (environment.map Prod.fst).Nodup)
    (he : environment = before ++ (variablePrefix ++ rest, text) :: after)
    (hu : ∀ rest' text', (variablePrefix ++ rest', text') ∈ before ++ after →
      dotted rest' ≠ dotted rest)
    (hf : Entries.ofList (given dialect environment) =
      front ++ (dotted rest, valueOfText dialect text) :: back) (hd : d ∈ back) :
    ∃ rest' text', (variablePrefix ++ rest', text') ∈ after ∧ d.1 = dotted rest' := by
  obtain ⟨middle, others, rfl⟩ := List.append_of_mem hd
  rw [← List.cons_append, ← List.append_assoc] at hf
  have hm : dotted rest ∈
      Entries.keys (front ++ (dotted rest, valueOfText dialect text) :: middle) := by
    simp
  obtain ⟨y, hy, c, hc, hk, hs⟩ := exists_first hf hm
  have hdm : d ∈ Entries.ofList (given dialect environment) := by simp [hf]
  obtain ⟨z, hz, ho⟩ := List.mem_filterMap.mp (Entries.mem_of_mem_ofList hdm)
  -- The first variable of the key is the only one, and the others stand behind it.
  obtain rfl : y = (variablePrefix ++ rest, text) := by
    obtain ⟨rest', text', rfl, rfl⟩ := exists_of_override? hc
    by_contra hne
    refine hu rest' text' ?_ hk
    rw [he, List.mem_append, List.mem_cons] at hy
    rw [List.mem_append]
    tauto
  have hx : (variablePrefix ++ rest, text) ∉ before := by
    intro hm
    rw [he, List.map_append, List.map_cons] at hn
    exact List.disjoint_of_nodup_append hn (List.mem_map_of_mem (f := Prod.fst) hm)
      List.mem_cons_self
  have hz' := mem_of_sublist hx (he ▸ hs z d hz ho rfl)
  obtain ⟨rest', text', rfl, rfl⟩ := exists_of_override? ho
  exact ⟨rest', text', hz', rfl⟩

theorem stores_of_nest (hn : (environment.map Prod.fst).Nodup)
    (ho : overrides dialect environment ≠ []) (h : nest (overrides dialect environment) = .ok t) :
    Stores dialect environment t := by
  obtain ⟨⟨name, text⟩, hx, rest, rfl⟩ : ∃ x ∈ environment, HoldsSetting x := by
    simpa using mt (overrides_eq_nil hn).mpr ho
  rw [overrides_eq hn] at h
  constructor
  · exact ⟨_, hx, rest, rfl⟩
  · intro before rest text after he hu ha
    have hm : (dotted rest, valueOfText dialect text) ∈ Entries.ofList (given dialect environment) :=
      mem_ofList_given he fun rest' text' hz => hu rest' text' (List.mem_append_right before hz)
    obtain ⟨front, back, hf⟩ := List.append_of_mem hm
    have hs : ∀ d ∈ back, Apart (steps d.1) (steps (dotted rest)) := by
      intro d hd
      obtain ⟨rest', text', hz, hk⟩ := mem_after_of_override hn he hu hf hd
      rw [hk]
      exact (ha rest' text' hz).symm
    rw [hf] at h
    have hv := find?_nest h hs
    exact hv
  · intro path v hv
    by_cases hp : path = []
    · exact ⟨rest, text, hx, .inl (hp ▸ List.nil_prefix)⟩
    · obtain ⟨e, he, hpe⟩ := exists_of_find?_nest h hp hv
      obtain ⟨rest', text', hz, rfl⟩ := exists_of_mem_given (Entries.mem_of_mem_ofList he)
      exact ⟨rest', text', hz, hpe⟩

end SceneMarkup.Setting

namespace SceneMarkup.Settings

open Setting

variable {environment : List (String × String)}

/-- Adding an environment stores the value of every variable's text under its own path, in a layer
of its own, and nothing else. Only the variables that hold settings matter, and an environment that
cannot be added leaves the settings as they are. -/
theorem addEnvironment_stores (s : Settings) (hn : (environment.map Prod.fst).Nodup) :
    (∀ t, s.addEnvironment environment = .ok t →
      ((∀ x ∈ environment, ¬ HoldsSetting x) ∧ t = s) ∨
      ∃ data, t = s.addLayer "env" data 100 ∧ Stores s.limits.dialect environment data) ∧
    (∀ environment' : List (String × String), (environment'.map Prod.fst).Nodup →
      (environment.filter fun x => variablePrefix.toList.isPrefixOf x.1.toList) =
        (environment'.filter fun x => variablePrefix.toList.isPrefixOf x.1.toList) →
      s.addEnvironment environment = s.addEnvironment environment') ∧
    ∀ m, s.addEnvironment environment = .error m →
      s.perform (.addEnvironment environment) = (.error m, s) := by
  refine ⟨?_, ?_, ?_⟩
  · intro t ht
    rcases addEnvironment_ok ht with ⟨ho, rfl⟩ | ⟨ho, data, hd, rfl⟩
    · exact .inl ⟨(overrides_eq_nil hn).mp ho, rfl⟩
    · exact .inr ⟨data, rfl, stores_of_nest hn ho hd⟩
  · intro environment' hn' hf
    have ho : overrides s.limits.dialect environment =
        overrides s.limits.dialect environment' := by
      rw [overrides_eq hn, overrides_eq hn', ← given_filter, hf, given_filter]
    rw [addEnvironment, addEnvironment, ho]
  · intro m hm
    rw [perform, hm]

/-- The layer that a table and a later entry of it give. -/
theorem addEnvironment_stores_port :
    (agreeing.map Prod.fst).Nodup ∧ ∃ data,
      (empty ample).addEnvironment agreeing = .ok ((empty ample).addLayer "env" data 100) ∧
      find? ["dev", "port"] data = some (.integer 3000) := by
  have hn : (agreeing.map Prod.fst).Nodup := by decide
  obtain ⟨t, ht⟩ :=
    exists_addEnvironment (empty ample) (exists_nest_overrides hn not_contested_agreeing)
  obtain ⟨hs, -, -⟩ := addEnvironment_stores (empty ample) hn
  rcases hs t ht with ⟨hx, -⟩ | ⟨data, rfl, hd⟩
  · exact absurd ⟨"DEV_PORT", rfl⟩ (hx ("OPAL_DEV_PORT", "3000") (by simp [agreeing]))
  · refine ⟨hn, data, ht, ?_⟩
    refine hd.kept [("OPAL_DEV", "\x7b\"port\": 3000\x7d"), ("HOME", "/root")] "DEV_PORT" "3000" []
      rfl ?_ (by simp)
    intro rest text hm he
    have hk := keyOfVariable?_append rest
    rw [he] at hk
    rcases List.mem_pair.mp hm with hx | hx
    · rw [(Prod.mk.inj hx).1] at hk
      exact absurd hk (by decide)
    · rw [(Prod.mk.inj hx).1] at hk
      exact absurd hk (by decide)

end SceneMarkup.Settings
