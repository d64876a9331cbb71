import Mathlib.Data.List.Forall2
import SceneMarkup.Proofs.Setting.Ranking
import SceneMarkup.Proofs.Setting.Storing
import SceneMarkup.Setting.Live

/-! # What live settings amount to

Sources that share no object within themselves are merged as the layers that they denote, in memory
behind all that there was. So live settings answer with what their layers amount to, and what they
answer with denotes it.
-/

namespace SceneMarkup

namespace Setting

/-- A source denotes a layer without meeting an object twice. -/
structure Source.Depicts (m : Memory) (source : Source) (layer : Layer) : Prop where
  name : source.name = layer.name
  priority : source.priority = layer.priority
  data : ∃ as, Denotes m [source.data] [layer.data] as ∧ as.Nodup

variable {m m₀ m' : Memory} {source : Source} {sources : List Source} {layer : Layer}
  {layers : List Layer} {root levels : Nat} {t : Entries Value}

theorem Source.Depicts.of_prefix (h : source.Depicts m layer) (hm : m <+: m') :
    source.Depicts m' layer := by
  obtain ⟨as, ha, hn⟩ := h.data
  exact ⟨h.name, h.priority, as, ha.of_prefix hm, hn⟩

/-! ### Merging -/

theorem laySource_spec (h : New m₀ [.object root] [.table t] m) (hs : source.Depicts m₀ layer)
    (levels : Nat) :
    (∀ t', addLayer levels t layer = .ok t' →
      ∃ m', laySource levels root m source = .ok m' ∧ New m₀ [.object root] [.table t'] m') ∧
    ∀ e, addLayer levels t layer = .error e → laySource levels root m source = .error e := by
  obtain ⟨hm, as, ha, hna, hla⟩ := h
  obtain ⟨_, -, cs, hc, hnc⟩ := hs.of_prefix hm
  obtain ⟨hok, herr⟩ := copy_spec hc hnc levels
  rw [addLayer, laySource]
  by_cases hl : layer.data.levels > levels
  · rw [if_pos hl, herr hl]
    exact ⟨by simp, fun e he => by cases he; rfl⟩
  · obtain ⟨d, m', he, hm', bs, hb, hnb, hlb⟩ := hok (Nat.not_lt.mp hl)
    rw [if_neg hl, he]
    dsimp only
    rcases table_or_ne layer.data with ⟨us, hus⟩ | hne
    · rw [hus] at hb hl
      obtain ⟨upper, rfl⟩ := hb.exists_object
      have hn : (as ++ bs).Nodup := List.nodup_append'.mpr ⟨hna, hnb, fun a h h' =>
        absurd (ha.lt_length a h) (Nat.not_lt.mpr (hlb a h'))⟩
      obtain ⟨m'', hlay, ⟨cs', hc', hn', hsub⟩, hframe⟩ :=
        laysWithin_lay (2 * levels) m' root upper t us as bs (ha.of_prefix hm') hb hn (by omega)
      have hnew : ∀ a ∈ as ++ bs, m₀.length ≤ a := by
        intro a h
        rcases List.mem_append.mp h with h | h
        · exact hla a h
        · exact Nat.le_trans hm.length_le (hlb a h)
      rw [hb.tableAt?_eq, hus]
      refine ⟨?_, by simp⟩
      rintro _ ⟨⟩
      refine ⟨m'', hlay, grown_iff.mpr fun a h => ?_, cs', hc', hn', fun a h => hnew a (hsub h)⟩
      rw [hframe a fun h' => absurd (hnew a h') (Nat.not_le.mpr h)]
      exact grown_iff.mp (hm.trans hm') a h
    · rw [hb.tableAt?_eq_none hne]
      split
      · next es he => exact absurd he (hne es)
      · exact ⟨by simp, fun e he => by cases he; rfl⟩

theorem foldlM_laySource (hs : List.Forall₂ (Source.Depicts m₀) sources layers)
    (h : New m₀ [.object root] [.table t] m) :
    (∀ t', layers.foldlM (addLayer levels) t = .ok t' →
      ∃ m', sources.foldlM (laySource levels root) m = .ok m' ∧
        New m₀ [.object root] [.table t'] m') ∧
    ∀ e, layers.foldlM (addLayer levels) t = .error e →
      sources.foldlM (laySource levels root) m = .error e := by
  induction hs generalizing m t with
  | nil =>
    refine ⟨?_, nofun⟩
    rintro _ ⟨⟩
    exact ⟨m, rfl, h⟩
  | @cons source layer sources layers hsl _ ih =>
    obtain ⟨hok, herr⟩ := laySource_spec h hsl levels
    rw [List.foldlM_cons, List.foldlM_cons]
    cases ha : addLayer levels t layer with
    | error e =>
      rw [herr e ha]
      refine ⟨nofun, ?_⟩
      rintro _ ⟨⟩
      rfl
    | ok u =>
      obtain ⟨m', hl, hn⟩ := hok u ha
      rw [hl]
      exact ih hn

theorem forall₂_ranked (hs : List.Forall₂ (Source.Depicts m) sources layers) :
    List.Forall₂ (Source.Depicts m) (rankedSources sources) (ranked layers) := by
  obtain ⟨hl, hz⟩ := List.forall₂_iff_zip.mp hs
  let pairs := (sources.zip layers).mergeSort fun p q => p.1.priority ≤ q.1.priority
  have hd : ∀ p ∈ sources.zip layers, p.1.Depicts m p.2 := fun p hp => hz hp
  have hr : rankedSources sources = pairs.map Prod.fst := by
    rw [List.map_mergeSort (s := fun a b : Source => decide (a.priority ≤ b.priority)),
      List.map_fst_zip (Nat.le_of_eq hl), rankedSources]
    exact fun _ _ _ _ => rfl
  have hr' : ranked layers = pairs.map Prod.snd := by
    rw [List.map_mergeSort (s := fun a b : Layer => decide (a.priority ≤ b.priority)),
      List.map_snd_zip (Nat.le_of_eq hl.symm), ranked]
    intro p hp q hq
    rw [(hd p hp).priority, (hd q hq).priority]
  rw [hr, hr', List.forall₂_map_left_iff, List.forall₂_map_right_iff, List.forall₂_same]
  exact fun p hp => hd p ((List.mergeSort_perm _ _).mem_iff.mp hp)

theorem mergeSources_spec (hs : List.Forall₂ (Source.Depicts m) sources layers) (levels : Nat) :
    (∀ t, merged levels layers = .ok t →
      ∃ m', mergeSources levels sources m = .ok m' ∧ New m [.object m.length] [.table t] m') ∧
    ∀ e, merged levels layers = .error e → mergeSources levels sources m = .error e :=
  foldlM_laySource (forall₂_ranked hs) (new_table m)

end Setting

open Setting

namespace LiveSettings

/-- The sources denote layers, each without meeting an object twice, and a merged table that is kept
denotes what the layers amount to. -/
structure Depicts (s : LiveSettings) (layers : List Layer) : Prop where
  sources : List.Forall₂ (Source.Depicts s.memory) s.sources layers
  view : ∀ a, s.view = some a → ∃ t as, merged s.limits.levels layers = .ok t ∧
    Denotes s.memory [.object a] [.table t] as ∧ as.Nodup

/-- Nothing changed but that there are more objects, and perhaps a merged table. -/
structure Grown (s s' : LiveSettings) : Prop where
  limits : s'.limits = s.limits
  sources : s'.sources = s.sources
  memory : s.memory <+: s'.memory

/-- A read returns the default, or a datum that denotes a value, or it fails. -/
inductive Returns (default : Datum) :
    Except Misuse (Option Value) → Except Misuse Datum × LiveSettings → Prop where
  | default (s : LiveSettings) : Returns default (.ok none) (.ok default, s)
  | value {s : LiveSettings} {d : Datum} {v : Value} {as : List Nat} :
      Denotes s.memory [d] [v] as → Returns default (.ok (some v)) (.ok d, s)
  | error (e : Misuse) (s : LiveSettings) : Returns default (.error e) (.error e, s)

variable {s s' : LiveSettings} {layers : List Layer} {name : String} {d default : Datum} {v : Value}
  {as : List Nat} {priority : Int}

theorem Grown.refl (s : LiveSettings) : Grown s s := ⟨rfl, rfl, List.prefix_rfl⟩

theorem Grown.trans {s'' : LiveSettings} (h : Grown s s') (h' : Grown s' s'') : Grown s s'' :=
  ⟨h'.limits.trans h.limits, h'.sources.trans h.sources, h.memory.trans h'.memory⟩

theorem depicts_of_view_eq_none (hs : List.Forall₂ (Source.Depicts s.memory) s.sources layers)
    (hv : s.view = none) : s.Depicts layers := by
  refine ⟨hs, fun a ha => ?_⟩
  rw [hv] at ha
  cases ha

theorem Depicts.sources_of_grown (h : s.Depicts layers) (hg : Grown s s') :
    List.Forall₂ (Source.Depicts s'.memory) s'.sources layers :=
  hg.sources ▸ h.sources.imp fun _ _ h => h.of_prefix hg.memory

/-- More objects in memory do not matter. -/
theorem Depicts.grown (h : s.Depicts layers) (hg : Grown s s') (hv : s'.view = s.view) :
    s'.Depicts layers := by
  refine ⟨h.sources_of_grown hg, fun a ha => ?_⟩
  obtain ⟨t, as, hm, hd, hn⟩ := h.view a (hv ▸ ha)
  exact ⟨t, as, hg.limits.symm ▸ hm, hd.of_prefix hg.memory, hn⟩

theorem Returns.eq_some {r : Except Misuse Datum × LiveSettings} {o : Option Value}
    (h : Returns default (.ok o) r) (hr : r.1 = .ok d) (hd : Denotes r.2.memory [d] [v] as)
    (hne : d ≠ default) : o = some v := by
  cases h with
  | default s => exact absurd (Except.ok.inj hr).symm hne
  | value hd' =>
    obtain rfl := Except.ok.inj hr
    rw [(List.cons.inj (hd.unique hd').1).1]

/-! ### Sources -/

theorem Depicts.addSource (h : s.Depicts layers) {v : Value} (hd : Denotes s.memory [d] [v] as)
    (hn : as.Nodup) : (s.addSource name d priority).Depicts (layers ++ [⟨name, v, priority⟩]) := by
  refine depicts_of_view_eq_none (List.rel_append h.sources (.cons ?_ .nil)) rfl
  exact ⟨rfl, rfl, as, hd, hn⟩

theorem addEnvironment_spec (s : LiveSettings) (environment : List (String × String)) :
    (Settings.environmentData? s.limits.dialect environment = .ok none →
      s.addEnvironment environment = .ok s) ∧
    (∀ t, Settings.environmentData? s.limits.dialect environment = .ok (some t) →
      ∃ d m, s.addEnvironment environment = .ok ({ s with memory := m }.addSource "env" d 100) ∧
        New s.memory [d] [t] m) ∧
    ∀ e, Settings.environmentData? s.limits.dialect environment = .error e →
      s.addEnvironment environment = .error e := by
  unfold Settings.environmentData? LiveSettings.addEnvironment
  have hk : ∀ e ∈ overrides s.limits.dialect environment, Value.Keyed e.2 :=
    fun e => keyed_of_mem_overrides
  generalize overrides s.limits.dialect environment = flat at hk
  cases flat with
  | nil => exact ⟨fun _ => rfl, nofun, nofun⟩
  | cons e flat =>
    obtain ⟨hok, herr⟩ := storeNested_spec hk s.memory
    dsimp only
    cases hn : nest (e :: flat) with
    | error misuse =>
      rw [herr misuse hn]
      refine ⟨nofun, nofun, ?_⟩
      rintro _ ⟨⟩
      rfl
    | ok t =>
      obtain ⟨d, m, hs, hd⟩ := hok t hn
      rw [hs]
      refine ⟨nofun, ?_, nofun⟩
      rintro _ ⟨⟩
      exact ⟨d, m, rfl, hd⟩

theorem addEnvironment_of_overrides {environment : List (String × String)} {e : String × Value}
    {flat : Entries Value} {m : Memory}
    (h : overrides s.limits.dialect environment = e :: flat)
    (hs : storeNested (e :: flat) s.memory = .ok (d, m)) :
    s.addEnvironment environment = .ok ({ s with memory := m }.addSource "env" d 100) := by
  rw [LiveSettings.addEnvironment, h]
  dsimp only
  rw [hs]

theorem Depicts.addEnvironment (h : s.Depicts layers) {environment : List (String × String)}
    {data : Option Value}
    (he : Settings.environmentData? s.limits.dialect environment = .ok data) :
    ∃ s', s.addEnvironment environment = .ok s' ∧ s'.limits = s.limits ∧
      s'.Depicts (layers ++ (data.map (⟨"env", ·, 100⟩)).toList) := by
  obtain ⟨hnone, hsome, -⟩ := addEnvironment_spec s environment
  cases data with
  | none => exact ⟨s, hnone he, rfl, by simpa using h⟩
  | some t =>
    obtain ⟨d, m, hs, hm, as, hd, hn, -⟩ := hsome t he
    have hg : Grown s { s with memory := m } := ⟨rfl, rfl, hm⟩
    exact ⟨_, hs, rfl, (h.grown hg rfl).addSource hd hn⟩

/-! ### Writing -/

theorem set_ok {source : Source} {key : String} {m : Memory}
    (hf : s.withRuntime.sources.find? (·.name == Settings.runtimeName) = some source)
    (hw : write d (steps key) source.data s.withRuntime.memory = (.ok (), m)) :
    s.set key d = (.ok (), { s.withRuntime with memory := m, view := none }) := by
  rw [LiveSettings.set, hf]
  dsimp only
  rw [hw]

theorem set_error {source : Source} {key : String} {m : Memory} {e : Misuse}
    (hf : s.withRuntime.sources.find? (·.name == Settings.runtimeName) = some source)
    (hw : write d (steps key) source.data s.withRuntime.memory = (.error e, m)) :
    s.set key d = (.error e, { s.withRuntime with memory := m }) := by
  rw [LiveSettings.set, hf]
  dsimp only
  rw [hw]

/-! ### Reading -/

theorem Depicts.table (h : s.Depicts layers) :
    (∃ t a as s', merged s.limits.levels layers = .ok t ∧ s.table = (.ok a, s') ∧ Grown s s' ∧
      s'.Depicts layers ∧ Denotes s'.memory [.object a] [.table t] as ∧ as.Nodup) ∨
    ∃ e, merged s.limits.levels layers = .error e ∧ s.table = (.error e, s) := by
  cases hv : s.view with
  | some a =>
    obtain ⟨t, as, hm, hd, hn⟩ := h.view a hv
    exact .inl ⟨t, a, as, s, hm, by rw [LiveSettings.table, hv], .refl s, h, hd, hn⟩
  | none =>
    obtain ⟨hok, herr⟩ := mergeSources_spec h.sources s.limits.levels
    cases hm : merged s.limits.levels layers with
    | error e => exact .inr ⟨e, rfl, by rw [LiveSettings.table, hv, herr e hm]⟩
    | ok t =>
      obtain ⟨m', he, hm', as, ha, hn, -⟩ := hok t hm
      have hg : Grown s { s with memory := m', view := some s.memory.length } := ⟨rfl, rfl, hm'⟩
      refine .inl ⟨t, s.memory.length, as, _, rfl, by rw [LiveSettings.table, hv, he], hg, ?_, ha, hn⟩
      refine ⟨h.sources_of_grown hg, ?_⟩
      rintro _ ⟨⟩
      exact ⟨t, as, hm, ha, hn⟩

/-- A key is answered with what the layers bind it to. -/
theorem Depicts.get (h : s.Depicts layers) (key : String) (default : Datum) :
    Returns default (answer s.limits.levels layers key) (s.get key default) ∧
      Grown s (s.get key default).2 ∧ (s.get key default).2.Depicts layers := by
  rcases h.table with ⟨t, a, as, s', hm, ht, hg, h', hd, -⟩ | ⟨e, hm, ht⟩
  · rw [answer, hm, LiveSettings.get, ht]
    refine ⟨?_, hg, h'⟩
    obtain ⟨bs, hw, -⟩ := hd.walk (steps key)
    change Returns default (.ok (find? (steps key) (.table t)))
      (.ok ((walk s'.memory (steps key) (.object a)).getD default), s')
    generalize walk s'.memory (steps key) (.object a) = od, find? (steps key) (.table t) = ov at hw
    cases hw with
    | none => exact .default s'
    | some hd => exact .value hd
  · rw [answer, hm, LiveSettings.get, ht]
    exact ⟨.error e s, .refl s, h⟩

theorem Depicts.copied (h : s.Depicts layers) (hd : Denotes s.memory [d] [v] as) (hn : as.Nodup) :
    (v.levels ≤ s.limits.levels → ∃ d' bs, (s.copied d).1 = .ok d' ∧
      Denotes (s.copied d).2.memory [d'] [v] bs) ∧
    (s.limits.levels < v.levels → (s.copied d).1 = .error .tooDeep) ∧
    Grown s (s.copied d).2 ∧ (s.copied d).2.Depicts layers := by
  obtain ⟨hok, herr⟩ := copy_spec hd hn s.limits.levels
  rw [LiveSettings.copied]
  by_cases hl : v.levels ≤ s.limits.levels
  · obtain ⟨d', m', he, hm', bs, hb, -⟩ := hok hl
    rw [he]
    have hg : Grown s { s with memory := m' } := ⟨rfl, rfl, hm'⟩
    exact ⟨fun _ => ⟨d', bs, rfl, hb⟩, fun hl' => absurd hl (Nat.not_le.mpr hl'), hg, h.grown hg rfl⟩
  · rw [herr (Nat.not_le.mp hl)]
    exact ⟨fun hl' => absurd hl' hl, fun _ => rfl, .refl s, h⟩

/-- The whole table denotes what the layers amount to, unless it has too many levels to be
copied. -/
theorem Depicts.all (h : s.Depicts layers) :
    (∀ e, merged s.limits.levels layers = .error e → s.all.1 = .error e) ∧
    (∀ t, merged s.limits.levels layers = .ok t →
      ((Value.table t).levels ≤ s.limits.levels → ∃ d as, s.all.1 = .ok d ∧
        Denotes s.all.2.memory [d] [.table t] as) ∧
      (s.limits.levels < (Value.table t).levels → s.all.1 = .error .tooDeep)) ∧
    Grown s s.all.2 ∧ s.all.2.Depicts layers := by
  rcases h.table with ⟨t, a, as, s', hm, ht, hg, h', hd, hn⟩ | ⟨e, hm, ht⟩
  · rw [hm, LiveSettings.all, ht]
    obtain ⟨hok, herr, hg', h''⟩ := h'.copied hd hn
    rw [hg.limits] at hok herr
    refine ⟨nofun, ?_, hg.trans hg', h''⟩
    rintro _ ⟨⟩
    exact ⟨hok, herr⟩
  · rw [hm, LiveSettings.all, ht]
    refine ⟨?_, nofun, .refl s, h⟩
    rintro _ ⟨⟩
    rfl

theorem Depicts.part (h : s.Depicts layers) (key : String) :
    Grown s (s.part key).2 ∧ (s.part key).2.Depicts layers := by
  rcases h.table with ⟨t, a, as, s', -, ht, hg, h', hd, hn⟩ | ⟨e, -, ht⟩
  · obtain ⟨bs, hw, hb⟩ := hd.walk (steps key)
    have hnew : Grown s' { s' with memory := s'.memory ++ [.table []] } :=
      ⟨rfl, rfl, List.prefix_append ..⟩
    rw [LiveSettings.part, LiveSettings.get, ht]
    dsimp only
    generalize walk s'.memory (steps key) (.object a) = od, find? (steps key) (.table t) = ov at hw
    cases hw with
    | none => exact ⟨hg.trans hnew, h'.grown hnew rfl⟩
    | @some d v _ hd =>
      rw [Option.getD_some]
      obtain ⟨-, -, hg', h''⟩ := h'.copied hd (hb hn)
      cases tableAt? s'.memory d with
      | none => exact ⟨hg.trans hnew, h'.grown hnew rfl⟩
      | some b => exact ⟨hg.trans hg', h''⟩
  · rw [LiveSettings.part, LiveSettings.get, ht]
    exact ⟨.refl s, h⟩

end LiveSettings

end SceneMarkup
