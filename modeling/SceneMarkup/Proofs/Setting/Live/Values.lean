import SceneMarkup.Proofs.Setting.Live.Lookup
import SceneMarkup.Proofs.Setting.Runtime

/-! # Live settings as settings of values

Live settings to which every object is handed over once keep the objects of their sources apart.
They behave as settings of values: the same writes are refused, and the same questions are answered,
with data that denote the values.
-/

namespace SceneMarkup.LiveSettings

open Setting

open Settings (runtimeName runtimePriority)

/-- The datum denotes the value, and none of its objects is met twice in it or in a source. -/
def Takes (s : LiveSettings) (d : Datum) (v : Value) : Prop :=
  ∃ cs, Denotes s.memory [d] [v] cs ∧
    ∀ vs as, Denotes s.memory (s.sources.map Source.data) vs as → (as ++ cs).Nodup

/-- Live settings that operations lead to while others make objects and hand each of them over once,
and add no source that has the name or the rank of what is set at run time. -/
inductive Reached (limits : Limits) : LiveSettings → Prop where
  | create (m : Memory) : Reached limits (empty limits m)
  | createFrom {m : Memory} {d : Datum} {es : Entries Value} {as : List Nat} {s : LiveSettings} :
      Denotes m [d] [.table es] as → as.Nodup → ofDefaults limits m d = .ok s → Reached limits s
  | make {s : LiveSettings} (cells : List Cell) : Reached limits s →
      Reached limits { s with memory := s.memory ++ cells }
  | addSource {s : LiveSettings} {name : String} {d : Datum} {es : Entries Value} {priority : Int} :
      Reached limits s → name ≠ runtimeName → priority < runtimePriority → s.Takes d (.table es) →
      Reached limits (s.addSource name d priority)
  | addEnvironment {s t : LiveSettings} {environment : List (String × String)} :
      Reached limits s → s.addEnvironment environment = .ok t → Reached limits t
  | set {s : LiveSettings} {d : Datum} {v : Value} (key : String) : Reached limits s → s.Takes d v →
      Reached limits (s.set key d).2
  | get {s : LiveSettings} (key : String) (default : Datum) : Reached limits s →
      Reached limits (s.get key default).2
  | part {s : LiveSettings} (key : String) : Reached limits s → Reached limits (s.part key).2
  | all {s : LiveSettings} : Reached limits s → Reached limits s.all.2

/-- The sources denote the layers by means of the objects at the addresses. -/
structure SourcesDenote (s : LiveSettings) (layers : List Layer) (as : List Nat) : Prop where
  names : s.standing = layers.map fun l => (l.name, l.priority)
  data : Denotes s.memory (s.sources.map Source.data) (layers.map Layer.data) as

/-- The sources denote the layers, and no object is met twice in them. -/
structure Keeps (s : LiveSettings) (layers : List Layer) : Prop where
  depicts : s.Depicts layers
  apart : ∃ as, s.SourcesDenote layers as ∧ as.Nodup

/-- Settings of values have the layers that the sources denote, and no object is met twice in
them. -/
structure Mirrors (s : LiveSettings) (t : Settings) : Prop where
  limits : s.limits = t.limits
  keeps : s.Keeps t.layers
  tops : ∃ before after data, Tops t.layers before after data
  current : t.Current

/-- The same failure, or a datum that denotes the value. -/
inductive Answers : Except Misuse Datum × LiveSettings → Except Misuse Value → Prop where
  | ok {s : LiveSettings} {d : Datum} {v : Value} {as : List Nat} :
      Denotes s.memory [d] [v] as → Answers (.ok d, s) (.ok v)
  | error (e : Misuse) (s : LiveSettings) : Answers (.error e, s) (.error e)

variable {s s' : LiveSettings} {t : Settings} {layers before after : List Layer} {data : Option Value}
  {d default : Datum} {v : Value} {m : Memory} {sources : List Source} {as : List Nat}
  {limits : Limits} {key : String}

/-! ### Sources -/

theorem SourcesDenote.forall₂ (h : s.SourcesDenote layers as) (hn : as.Nodup) :
    List.Forall₂ (Source.Depicts s.memory) s.sources layers := by
  obtain ⟨hs, hd⟩ := h
  rw [standing] at hs
  generalize s.sources = sources at hs hd
  induction sources generalizing layers as with
  | nil =>
    obtain rfl : layers = [] := List.map_eq_nil_iff.mp hs.symm
    exact .nil
  | cons source sources ih =>
    cases layers with
    | nil => cases hs
    | cons layer layers =>
      obtain ⟨he, hs⟩ := List.cons.inj hs
      obtain ⟨v, vs, bs, cs, hv, rfl, hb, hc⟩ := Denotes.cons_iff.mp hd
      obtain ⟨rfl, rfl⟩ := List.cons.inj hv
      obtain ⟨hname, hpriority⟩ := Prod.mk.inj he
      exact .cons ⟨hname, hpriority, bs, hb, hn.of_append_left⟩ (ih hn.of_append_right hs hc)

theorem SourcesDenote.grown (h : s.SourcesDenote layers as) (hg : Grown s s') :
    s'.SourcesDenote layers as :=
  ⟨(congrArg _ hg.sources).trans h.names, hg.sources ▸ h.data.of_prefix hg.memory⟩

theorem Keeps.grown (h : s.Keeps layers) (hg : Grown s s') (hd : s'.Depicts layers) :
    s'.Keeps layers := by
  obtain ⟨as, ha, hn⟩ := h.apart
  exact ⟨hd, as, ha.grown hg, hn⟩

theorem Keeps.addSource (h : s.Keeps layers) (hd : s.Takes d v) (name : String) (priority : Int) :
    (s.addSource name d priority).Keeps (layers ++ [⟨name, v, priority⟩]) := by
  obtain ⟨as, ⟨hs, ha⟩, hn⟩ := h.apart
  obtain ⟨cs, hc, hn'⟩ := hd
  refine ⟨h.depicts.addSource hc (hn' _ _ ha).of_append_right, as ++ cs, ⟨?_, ?_⟩, hn' _ _ ha⟩
  · simpa [LiveSettings.addSource, standing] using hs
  · simpa [LiveSettings.addSource] using ha.append hc

/-- What is made of new objects can be handed over. -/
theorem Keeps.takes_of_new (h : s.Keeps layers) (hd : New s.memory [d] [v] m) :
    LiveSettings.Takes { s with memory := m } d v := by
  obtain ⟨as, ⟨-, ha⟩, hn⟩ := h.apart
  obtain ⟨hm, bs, hb, hnb, hl⟩ := hd
  refine ⟨bs, hb, fun vs cs hc => ?_⟩
  obtain rfl := (hc.unique (ha.of_prefix hm)).2
  exact List.nodup_append'.mpr ⟨hn, hnb, fun a h h' =>
    absurd (ha.lt_length a h) (Nat.not_lt.mpr (hl a h'))⟩

/-! ### Writes -/

theorem any_runtime_iff (s : LiveSettings) :
    s.sources.any (·.name == runtimeName) ↔ ∃ e ∈ s.standing, e.1 = runtimeName := by
  simp [standing]

theorem Keeps.withRuntime (h : s.Keeps layers) (ht : Tops layers before after data)
    (hd : s.Takes d v) : ∃ as cs, s.withRuntime.SourcesDenote ((around before after data).1 ++
        ⟨runtimeName, runtimeData data, runtimePriority⟩ :: (around before after data).2) as ∧
      Denotes s.withRuntime.memory [d] [v] cs ∧ (as ++ cs).Nodup ∧
      (data ≠ none → s.withRuntime = s) := by
  obtain ⟨as, ha, hn⟩ := h.apart
  obtain ⟨cs, hc, hn'⟩ := hd
  cases data with
  | some w =>
    have hr : s.sources.any (·.name == runtimeName) := by
      rw [any_runtime_iff, ha.names, ht.layers]
      exact ⟨(runtimeName, runtimePriority), by simp [runtimeLayers], rfl⟩
    have hw : s.withRuntime = s := if_pos hr
    rw [hw]
    exact ⟨as, cs, ht.layers ▸ ha, hc, hn' _ _ ha.data, fun _ => rfl⟩
  | none =>
    have hl : layers = before ++ after := by simp [ht.layers, runtimeLayers]
    have hr : ¬ s.sources.any (·.name == runtimeName) := by
      rw [any_runtime_iff, ha.names, hl]
      rintro ⟨e, he, hname⟩
      obtain ⟨l, hm, rfl⟩ := List.mem_map.mp he
      exact (ht.lower l hm).name hname
    have hw : s.withRuntime = { s with
        memory := s.memory ++ [.table []]
        sources := s.sources ++ [⟨runtimeName, .object s.memory.length, runtimePriority⟩] } :=
      if_neg hr
    obtain ⟨hm, bs, hb, hnb, hlb⟩ := new_table s.memory
    rw [hw]
    refine ⟨as ++ bs, cs, ⟨?_, ?_⟩, hc.of_prefix hm, ?_, ?_⟩
    · have hs := ha.names
      rw [standing] at hs
      simp [standing, hs, hl, around]
    · simpa [hl, runtimeData, around] using (ha.data.of_prefix hm).append hb
    · have := hn' _ _ ha.data
      have hlt := ha.data.lt_length
      have hlt' := hc.lt_length
      have hap : ∀ b ∈ bs, b ∉ as ∧ b ∉ cs := fun b hb' =>
        ⟨fun h' => absurd (hlt b h') (Nat.not_lt.mpr (hlb b hb')),
          fun h' => absurd (hlt' b h') (Nat.not_lt.mpr (hlb b hb'))⟩
      grind
    · exact fun hne => absurd rfl hne

/-- Setting a key is refused and changes nothing, or it writes to the data set at run time. -/
theorem Keeps.set (h : s.Keeps layers) (ht : Tops layers before after data) (hd : s.Takes d v)
    (key : String) :
    (∃ e, assign v (steps key) (runtimeData data) = .error e ∧ s.set key d = (.error e, s)) ∨
    ∃ w s', assign v (steps key) (runtimeData data) = .ok w ∧ s.set key d = (.ok (), s') ∧
      s'.limits = s.limits ∧ s'.Keeps ((around before after data).1 ++
        (runtimeLayers (some w) ++ (around before after data).2)) := by
  obtain ⟨as, cs, ⟨hs, ha⟩, hc, hn, hw⟩ := h.withRuntime ht hd
  have hl := around_append before after data
  generalize (around before after data).1 = before', (around before after data).2 = after'
    at hs ha hl
  have hlim : s.withRuntime.limits = s.limits := by
    rw [LiveSettings.withRuntime]
    split <;> rfl
  rw [standing, List.map_append, List.map_cons] at hs
  obtain ⟨ss, rest, hss, hbefore, hrest⟩ := List.map_eq_append_iff.mp hs
  obtain ⟨source, ss', rfl, hsource, hafter⟩ := List.map_eq_cons_iff.mp hrest
  obtain ⟨hname, hpriority⟩ := Prod.mk.inj hsource
  have hfind : s.withRuntime.sources.find? (·.name == runtimeName) = some source := by
    have hb : ∀ x ∈ ss, ¬ (x.name == runtimeName) = true := by
      intro x hx
      obtain ⟨l, hm, he⟩ := List.mem_map.mp (hbefore ▸ List.mem_map_of_mem hx :
        (x.name, x.priority) ∈ before'.map fun l => (l.name, l.priority))
      rw [← (Prod.mk.inj he).1, beq_iff_eq]
      exact (ht.lower l (hl ▸ List.mem_append_left _ hm)).name
    rw [hss, List.find?_append, List.find?_eq_none.mpr hb, List.find?_cons_of_pos (by simp [hname])]
    rfl
  have hdata := ha
  rw [hss, List.map_append, List.map_cons, List.map_append, List.map_cons] at ha
  have hlen : (ss.map Source.data).length = (before'.map Layer.data).length := by
    simpa using congrArg List.length hbefore
  obtain ⟨hok, herr⟩ := write_among ha hlen hc hn (steps_ne_nil key)
  cases hassign : assign v (steps key) (runtimeData data) with
  | error e =>
    have hne : data ≠ none := by
      rintro rfl
      obtain ⟨t, ht⟩ := Settings.exists_assign_nil v (steps key)
      cases hassign.symm.trans ht
    exact .inl ⟨e, rfl, by rw [set_error hfind (herr e hassign), hw hne]⟩
  | ok w =>
    obtain ⟨m', as', he, ha', hn'⟩ := hok w hassign
    have hd' : SourcesDenote { s.withRuntime with memory := m', view := none }
        (before' ++ (runtimeLayers (some w) ++ after')) as' := by
      constructor
      · rw [standing, hss, List.map_append, List.map_cons, hbefore, hafter, hsource]
        simp [runtimeLayers]
      · change Denotes m' (s.withRuntime.sources.map Source.data) _ as'
        rw [hss, List.map_append, List.map_cons]
        simpa [runtimeLayers] using ha'
    exact .inr ⟨w, _, rfl, set_ok hfind he, hlim,
      depicts_of_view_eq_none (hd'.forall₂ hn') rfl, as', hd', hn'⟩

/-! ### Operations -/

theorem keeps_empty (limits : Limits) (m : Memory) : (empty limits m).Keeps [] :=
  ⟨depicts_of_view_eq_none .nil rfl, [], ⟨rfl, .nil⟩, .nil⟩

theorem Takes.isData {es : Entries Value} (h : s.Takes d (.table es)) : IsData (.table es) := by
  obtain ⟨cs, hc, -⟩ := h
  exact ⟨⟨es, rfl⟩, hc.keyed _ (List.mem_singleton_self _)⟩

theorem isData_of_environmentData {dialect : Json.Dialect}
    {environment : List (String × String)} {t : Value}
    (h : Settings.environmentData? dialect environment = .ok (some t)) : IsData t := by
  unfold Settings.environmentData? at h
  split at h
  · cases h
  · cases hn : nest (overrides dialect environment) with
    | error e =>
      rw [hn] at h
      cases h
    | ok u =>
      rw [hn] at h
      cases h
      exact isData_of_nest (fun e => keyed_of_mem_overrides) hn

/-! ### Settings of values -/

theorem mirrors_empty (limits : Limits) (m : Memory) :
    (empty limits m).Mirrors (Settings.empty limits) :=
  ⟨rfl, keeps_empty limits m, ⟨_, _, _, tops_nil⟩, Settings.current_empty limits⟩

theorem Mirrors.grown (h : s.Mirrors t) (hg : Grown s s') (hd : s'.Depicts t.layers) :
    s'.Mirrors t :=
  ⟨hg.limits.trans h.limits, h.keeps.grown hg hd, h.tops, h.current⟩

theorem Mirrors.memory (h : s.Mirrors t) (hm : s.memory <+: m) :
    Mirrors { s with memory := m } t :=
  have hg : Grown s { s with memory := m } := ⟨rfl, rfl, hm⟩
  h.grown hg (h.keeps.depicts.grown hg rfl)

theorem Mirrors.addSource (h : s.Mirrors t) (hd : s.Takes d v) (hdata : IsData v) {name : String}
    {priority : Int} (hname : name ≠ runtimeName) (hpriority : priority < runtimePriority) :
    (s.addSource name d priority).Mirrors (t.addLayer name v priority) := by
  obtain ⟨before, after, data, ht⟩ := h.tops
  exact ⟨h.limits, h.keeps.addSource hd _ _, ⟨_, _, _, ht.concat (hdata.isLower hname hpriority)⟩,
    Settings.current_of_view_eq_none rfl⟩

/-- Defaults are copied, unless they are too deep. -/
theorem mirrors_ofDefaults {es : Entries Value} (hd : Denotes m [d] [.table es] as) (hn : as.Nodup)
    (hs : ofDefaults limits m d = .ok s) : s.Mirrors (Settings.ofDefaults limits (.table es)) := by
  obtain ⟨hok, herr⟩ := copy_spec hd hn limits.levels
  by_cases hl : (Value.table es).levels ≤ limits.levels
  · obtain ⟨d', m', he, hnew⟩ := hok hl
    rw [ofDefaults, he] at hs
    obtain rfl := Except.ok.inj hs
    have h := mirrors_empty limits m
    have hdata : IsData (.table es) := ⟨⟨es, rfl⟩, hd.keyed _ (List.mem_singleton_self _)⟩
    exact (h.memory hnew.memory).addSource (h.keeps.takes_of_new hnew) hdata (by decide) (by decide)
  · rw [ofDefaults, herr (Nat.not_le.mp hl)] at hs
    cases hs

theorem Mirrors.addEnvironment (h : s.Mirrors t) (environment : List (String × String)) :
    (∃ e, s.addEnvironment environment = .error e ∧ t.addEnvironment environment = .error e) ∨
    ∃ s' t', s.addEnvironment environment = .ok s' ∧ t.addEnvironment environment = .ok t' ∧
      s'.Mirrors t' := by
  obtain ⟨hnone, hsome, herr⟩ := s.addEnvironment_spec environment
  rw [t.addEnvironment_eq environment, ← h.limits]
  rcases hd : Settings.environmentData? s.limits.dialect environment with e | _ | u
  · exact .inl ⟨e, herr e hd, rfl⟩
  · exact .inr ⟨s, t, hnone hd, rfl, h⟩
  · obtain ⟨d, m, he, hnew⟩ := hsome u hd
    exact .inr ⟨_, _, he, rfl, (h.memory hnew.memory).addSource (h.keeps.takes_of_new hnew)
      (isData_of_environmentData hd) (by decide) (by decide)⟩

theorem Mirrors.set (h : s.Mirrors t) (hd : s.Takes d v) (key : String) :
    (s.set key d).1 = (t.set key v).1 ∧ (s.set key d).2.Mirrors (t.set key v).2 := by
  obtain ⟨before, after, data, ht⟩ := h.tops
  obtain ⟨herr, hok⟩ := ht.set key v
  rcases h.keeps.set ht hd key with ⟨e, ha, he⟩ | ⟨w, s', ha, he, hlim, hk⟩
  · rw [he, herr e ha]
    exact ⟨rfl, h⟩
  · obtain ⟨cs, hc, -⟩ := hd
    rw [he, hok w ha]
    exact ⟨rfl, hlim.trans h.limits, hk,
      ⟨_, _, _, ht.assign (hc.keyed _ (List.mem_singleton_self _)) ha⟩,
      Settings.current_of_view_eq_none rfl⟩

theorem Mirrors.ask {α : Type} (h : s.Mirrors t)
    (question : Entries Value → Except Misuse α) : s.Mirrors (t.ask question).2 := by
  have hf := t.forget_ask question
  have hlim := congrArg Settings.limits hf
  have hlayers := congrArg Settings.layers hf
  exact ⟨h.limits.trans hlim.symm, hlayers.symm ▸ h.keeps, hlayers.symm ▸ h.tops,
    Settings.current_ask h.current question⟩

theorem Mirrors.get (h : s.Mirrors t) (hd : Denotes s.memory [d] [v] as) (key : String) :
    Answers (s.get key d) (t.get key v).1 ∧ (s.get key d).2.Mirrors (t.get key v).2 := by
  obtain ⟨hr, hg, hd'⟩ := h.keeps.depicts.get key d
  refine ⟨?_, (h.grown hg hd').ask _⟩
  have ha : (t.get key v).1 = (answer s.limits.levels t.layers key).map (·.getD v) := by
    rw [Settings.get, Settings.ask_fst h.current, answer, h.limits]
    cases merged t.limits.levels t.layers <;> rfl
  rw [ha]
  generalize answer s.limits.levels t.layers key = o, s.get key d = r at hr hg
  cases hr with
  | default s' => exact .ok (hd.of_prefix hg.memory)
  | value hv => exact .ok hv
  | error e s' => exact .error e s'

/-- Whatever leads to live settings while every object is handed over once, the same leads to
settings of values that they mirror. -/
theorem Reached.mirrors (h : Reached limits s) :
    ∃ t : Settings, t.Reached ∧ s.Mirrors t := by
  induction h with
  | create m => exact ⟨_, Settings.reached_empty limits, mirrors_empty limits m⟩
  | @createFrom m d es as s hd hn hs =>
    exact ⟨_, (Settings.reached_empty limits).perform (.create (some (.table es))),
      mirrors_ofDefaults hd hn hs⟩
  | make cells _ ih =>
    obtain ⟨t, ht, hm⟩ := ih
    exact ⟨t, ht, hm.memory (List.prefix_append ..)⟩
  | @addSource s name d es priority _ hname hpriority hd ih =>
    obtain ⟨t, ht, hm⟩ := ih
    exact ⟨_, ht.perform (.addLayer name (.table es) priority),
      hm.addSource hd hd.isData hname hpriority⟩
  | @addEnvironment s s' environment _ hs ih =>
    obtain ⟨t, ht, hm⟩ := ih
    rcases hm.addEnvironment environment with ⟨e, he, -⟩ | ⟨_, t', he, ht', hm'⟩
    · cases hs.symm.trans he
    · obtain rfl := Except.ok.inj (hs.symm.trans he)
      have hp : (t.perform (.addEnvironment environment)).2 = t' := by rw [Settings.perform, ht']
      exact ⟨t', hp ▸ ht.perform (.addEnvironment environment), hm'⟩
  | @set s d v key _ hd ih =>
    obtain ⟨t, ht, hm⟩ := ih
    exact ⟨_, ht.perform (.set key v), (hm.set hd key).2⟩
  | get key default _ ih =>
    obtain ⟨t, ht, hm⟩ := ih
    obtain ⟨-, hg, hd⟩ := hm.keeps.depicts.get key default
    exact ⟨t, ht, hm.grown hg hd⟩
  | part key _ ih =>
    obtain ⟨t, ht, hm⟩ := ih
    obtain ⟨hg, hd⟩ := hm.keeps.depicts.part key
    exact ⟨t, ht, hm.grown hg hd⟩
  | all _ ih =>
    obtain ⟨t, ht, hm⟩ := ih
    obtain ⟨-, -, hg, hd⟩ := hm.keeps.depicts.all
    exact ⟨t, ht, hm.grown hg hd⟩

end SceneMarkup.LiveSettings
