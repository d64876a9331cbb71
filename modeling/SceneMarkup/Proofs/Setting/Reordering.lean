import SceneMarkup.Proofs.Setting.Nesting
import SceneMarkup.Proofs.Setting.View

/-! # Environments in another order

Of two variables whose keys lie on one path the later one covers the earlier one, so their order
matters unless they agree. Nothing else of the order of an environment does.
-/

namespace SceneMarkup.Setting

open Value (Same Keyed)

def override? (dialect : Json.Dialect) (x : String × String) : Option (String × Value) :=
  (keyOfVariable? x.1).map (·, valueOfText dialect x.2)

def given (dialect : Json.Dialect) (environment : List (String × String)) :
    List (String × Value) :=
  environment.filterMap (override? dialect)

/-- Two keys are contested when variables that override them disagree. -/
def Contested (dialect : Json.Dialect) (environment : List (String × String)) (k k' : String) :
    Prop :=
  ∃ v v', (k, v) ∈ given dialect environment ∧ (k', v') ∈ given dialect environment ∧
    ¬ Compatible (k, v) (k', v')

/-- Variables with contested keys stand in the other environment in the order in which they
stand in this one. -/
def KeepsContested (dialect : Json.Dialect) (environment environment' : List (String × String)) :
    Prop :=
  environment.Pairwise fun x y => ∀ e e', override? dialect x = some e →
    override? dialect y = some e' → Contested dialect environment e.1 e'.1 →
    [x, y].Sublist environment'

variable {dialect : Json.Dialect} {environment environment' : List (String × String)}
  {x y : String × String} {e e' : String × Value} {t t' : Value}

/-! ### Overrides -/

theorem keyed_of_mem_given (h : e ∈ given dialect environment) : Keyed e.2 := by
  obtain ⟨x, -, hx⟩ := List.mem_filterMap.mp h
  obtain ⟨k, -, rfl⟩ := Option.map_eq_some_iff.mp hx
  exact keyed_valueOfText dialect x.2

theorem overrides_eq (hn : (environment.map Prod.fst).Nodup) :
    overrides dialect environment = Entries.ofList (given dialect environment) := by
  rw [overrides, Entries.ofList_of_nodup (show (Entries.keys environment).Nodup from hn)]
  rfl

theorem Contested.perm {k k' : String} (hp : environment.Perm environment')
    (h : Contested dialect environment' k k') : Contested dialect environment k k' := by
  obtain ⟨v, v', hv, hv', ha⟩ := h
  have hg := hp.filterMap (override? dialect)
  exact ⟨v, v', hg.mem_iff.mpr hv, hg.mem_iff.mpr hv', ha⟩

theorem not_contested_of_apart {k k' : String} (h : ¬ steps k <+: steps k')
    (h' : ¬ steps k' <+: steps k) : ¬ Contested dialect environment k k' := by
  rintro ⟨v, v', -, -, hc⟩
  exact hc (compatible_of_apart h h')

/-! ### Orders -/

theorem not_sublist_of_sublist {l : List (String × String)} (hl : l.Nodup)
    (h : [x, y].Sublist l) : ¬ [y, x].Sublist l := by
  intro h'
  induction l with
  | nil => cases h
  | cons z l ih =>
    obtain ⟨hz, hl⟩ := List.nodup_cons.mp hl
    cases h with
    | cons _ h =>
      cases h' with
      | cons _ h' => exact ih hl h h'
      | cons_cons _ _ => exact hz (h.subset (by simp))
    | cons_cons _ h =>
      cases h' with
      | cons _ h' => exact hz (h'.subset (by simp))
      | cons_cons _ _ => exact hz (h.subset (by simp))

theorem KeepsContested.sublist (hk : KeepsContested dialect environment environment')
    (hx : override? dialect x = some e) (hy : override? dialect y = some e')
    (hc : Contested dialect environment e.1 e'.1) (h : [x, y].Sublist environment) :
    [x, y].Sublist environment' :=
  List.pairwise_iff_forall_sublist.mp hk h e e' hx hy hc

theorem pair_sublist {l front back : List (String × String)} (h : l = front ++ back)
    (hx : x ∈ front) (hy : y ∈ back) : [x, y].Sublist l :=
  h ▸ (List.singleton_sublist.mpr hx).append (List.singleton_sublist.mpr hy)

theorem exists_last (he : e ∈ Entries.ofList (given dialect environment)) :
    ∃ x ∈ environment, override? dialect x = some e ∧
      ∀ y d, y ∈ environment → override? dialect y = some d → d.1 = e.1 →
        y = x ∨ [y, x].Sublist environment := by
  obtain ⟨front, back, hg, hb⟩ := Entries.exists_last_of_mem_ofList he
  obtain ⟨before, rest, rfl, -, hr⟩ := List.filterMap_eq_append_iff.mp hg
  obtain ⟨skipped, x, after, rfl, -, hx, rfl⟩ := List.filterMap_eq_cons_iff.mp hr
  refine ⟨x, by simp, hx, fun y d hy hd hk => ?_⟩
  have hl : before ++ (skipped ++ x :: after) = (before ++ skipped) ++ x :: after := by simp
  rw [hl] at hy
  rcases List.mem_append.mp hy with hy | hy
  · exact .inr (pair_sublist hl hy List.mem_cons_self)
  · rcases List.mem_cons.mp hy with rfl | hy
    · exact .inl rfl
    · exact absurd (List.mem_map.mpr ⟨d, List.mem_filterMap.mpr ⟨y, hy, hd⟩, hk⟩) hb

/-- A key that stands before another one has a variable before all of those of the other one. -/
theorem exists_first {k : String} {before after : Entries Value}
    (h : Entries.ofList (given dialect environment) = before ++ e :: after)
    (hk : k ∈ Entries.keys before) :
    ∃ y ∈ environment, ∃ d, override? dialect y = some d ∧ d.1 = k ∧
      ∀ z c, z ∈ environment → override? dialect z = some c → c.1 = e.1 →
        [y, z].Sublist environment := by
  have hks := congrArg Entries.keys h
  rw [Entries.keys_append, Entries.keys_cons] at hks
  obtain ⟨front, back, hg, hf, hb⟩ := Entries.exists_front_of_keys_ofList hks hk
  obtain ⟨before, after, rfl, rfl, -⟩ := List.filterMap_eq_append_iff.mp hg
  obtain ⟨d, hd, rfl⟩ := List.mem_map.mp hf
  obtain ⟨y, hy, hyd⟩ := List.mem_filterMap.mp hd
  refine ⟨y, List.mem_append_left _ hy, d, hyd, rfl, fun z c hz hc hce => ?_⟩
  rcases List.mem_append.mp hz with hz | hz
  · exact absurd (List.mem_map.mpr ⟨c, List.mem_filterMap.mpr ⟨z, hz, hc⟩, hce⟩) hb
  · exact pair_sublist rfl hy hz

theorem mem_keys_overrides (hp : environment.Perm environment') (k : String) :
    k ∈ Entries.keys (Entries.ofList (given dialect environment)) ↔
      k ∈ Entries.keys (Entries.ofList (given dialect environment')) := by
  rw [Entries.mem_keys_ofList, Entries.mem_keys_ofList]
  exact ((hp.filterMap (override? dialect)).map Prod.fst).mem_iff

/-- The overrides that two orders leave for a key agree. -/
theorem compatible_of_key_eq (hn : environment.Nodup) (hp : environment.Perm environment')
    (hk : KeepsContested dialect environment environment')
    (he : e ∈ Entries.ofList (given dialect environment))
    (he' : e' ∈ Entries.ofList (given dialect environment')) (hke : e'.1 = e.1) : Compatible e e' := by
  obtain ⟨x, hm, hx, hl⟩ := exists_last he
  obtain ⟨x', hm', hx', hl'⟩ := exists_last he'
  -- If they do not, the key is contested, and either order has the other's last variable first.
  by_contra hd
  have hne : x' ≠ x := by
    rintro rfl
    exact hd (Option.some.inj (hx.symm.trans hx') ▸ Compatible.refl e)
  have hs : [x', x].Sublist environment :=
    (hl x' e' (hp.mem_iff.mpr hm') hx' hke).resolve_left hne
  have hs' : [x, x'].Sublist environment' :=
    (hl' x e (hp.mem_iff.mp hm) hx hke.symm).resolve_left hne.symm
  have hc : Contested dialect environment e'.1 e.1 :=
    ⟨e'.2, e.2, List.mem_filterMap.mpr ⟨x', hp.mem_iff.mpr hm', hx'⟩,
      List.mem_filterMap.mpr ⟨x, hm, hx⟩, fun h => hd h.symm⟩
  exact not_sublist_of_sublist (hp.nodup_iff.mp hn) hs' (hk.sublist hx' hx hc hs)

/-- The overrides of two keys agree when two orders put the keys in different places. -/
theorem compatible_of_key_ne (hn : environment.Nodup) (hp : environment.Perm environment')
    (hk : KeepsContested dialect environment environment')
    {before after before' after' : Entries Value}
    (h : Entries.ofList (given dialect environment) = before ++ e :: after)
    (h' : Entries.ofList (given dialect environment') = before' ++ e' :: after')
    (ha : e'.1 ∈ Entries.keys before) (ha' : e.1 ∈ Entries.keys before') : Compatible e e' := by
  obtain ⟨y, hm, d, hy, hd, hf⟩ := exists_first h ha
  obtain ⟨y', hm', d', hy', hd', hf'⟩ := exists_first h' ha'
  -- The first variable of either key stands before the other one in one of the orders only.
  have hs : [y, y'].Sublist environment := hf y' d' (hp.mem_iff.mpr hm') hy' hd'
  have hs' : [y', y].Sublist environment' := hf' y d (hp.mem_iff.mp hm) hy hd
  have he : e ∈ given dialect environment := Entries.mem_of_mem_ofList (by simp [h])
  have he' : e' ∈ given dialect environment' := Entries.mem_of_mem_ofList (by simp [h'])
  by_contra hne
  have hc : Contested dialect environment d.1 d'.1 := by
    rw [hd, hd']
    exact ⟨e'.2, e.2, (hp.filterMap (override? dialect)).mem_iff.mpr he', he, fun h => hne h.symm⟩
  exact not_sublist_of_sublist (hp.nodup_iff.mp hn) hs' (hk.sublist hy hy' hc hs)

/-- Environments that keep the order of contested keys are nested to the same. -/
theorem same_nest_overrides (hn : (environment.map Prod.fst).Nodup)
    (hp : environment.Perm environment') (hk : KeepsContested dialect environment environment')
    (h : nest (overrides dialect environment) = .ok t)
    (h' : nest (overrides dialect environment') = .ok t') : Same t t' := by
  have hn' : (environment'.map Prod.fst).Nodup := (hp.map Prod.fst).nodup_iff.mp hn
  rw [overrides_eq hn] at h
  rw [overrides_eq hn'] at h'
  refine same_nest (mem_keys_overrides hp) h h' ?_
  intro before e after before' e' after' hf hf' ha ha'
  have he : e ∈ Entries.ofList (given dialect environment) := by simp [hf]
  have he' : e' ∈ Entries.ofList (given dialect environment') := by simp [hf']
  by_cases hke : e'.1 = e.1
  · exact compatible_of_key_eq hn.of_map hp hk he he' hke
  · have hm := (mem_keys_overrides hp e'.1).mpr (List.mem_map_of_mem he')
    have hm' := (mem_keys_overrides hp e.1).mp (List.mem_map_of_mem he)
    rw [hf] at hm
    rw [hf'] at hm'
    refine compatible_of_key_ne hn.of_map hp hk hf hf' ?_ ?_
    · simpa [ha, hke] using hm
    · simpa [ha', Ne.symm hke] using hm'

theorem overrides_eq_nil_iff (hn : (environment.map Prod.fst).Nodup)
    (hp : environment.Perm environment') :
    overrides dialect environment = [] ↔ overrides dialect environment' = [] := by
  rw [overrides_eq hn, overrides_eq ((hp.map Prod.fst).nodup_iff.mp hn)]
  have hm (k : String) := @mem_keys_overrides dialect _ _ hp k
  constructor <;> intro h <;>
    simpa [h, Entries.keys, List.eq_nil_iff_forall_not_mem] using hm

theorem keyed_nest_overrides (hn : (environment.map Prod.fst).Nodup)
    (h : nest (overrides dialect environment) = .ok t) : Keyed t := by
  rw [overrides_eq hn] at h
  exact keyed_nest (fun e he => keyed_of_mem_given (Entries.mem_of_mem_ofList he)) h

theorem exists_nest_overrides (hn : (environment.map Prod.fst).Nodup)
    (hc : ∀ k k', ¬ Contested dialect environment k k') :
    ∃ t, nest (overrides dialect environment) = .ok t := by
  rw [overrides_eq hn]
  refine exists_nest (List.pairwise_of_forall_mem_list fun e he e' he' => ?_)
  by_contra ha
  exact hc e.1 e'.1
    ⟨e.2, e'.2, Entries.mem_of_mem_ofList he, Entries.mem_of_mem_ofList he', ha⟩

end SceneMarkup.Setting

namespace SceneMarkup.Settings

open Setting

variable {s t : Settings} {environment environment' : List (String × String)}

theorem addEnvironment_ok (h : s.addEnvironment environment = .ok t) :
    overrides s.limits.dialect environment = [] ∧ t = s ∨
      overrides s.limits.dialect environment ≠ [] ∧
        ∃ data, nest (overrides s.limits.dialect environment) = .ok data ∧
          t = s.addLayer "env" data 100 := by
  unfold addEnvironment at h
  split at h
  · next ho => exact .inl ⟨ho, (Except.ok.inj h).symm⟩
  · next ho =>
    split at h
    · next data hd => exact .inr ⟨ho, data, hd, (Except.ok.inj h).symm⟩
    · cases h

theorem exists_addEnvironment (s : Settings)
    (h : ∃ data, nest (overrides s.limits.dialect environment) = .ok data) :
    ∃ t, s.addEnvironment environment = .ok t := by
  obtain ⟨data, hd⟩ := h
  unfold addEnvironment
  split
  · exact ⟨s, rfl⟩
  · exact ⟨s.addLayer "env" data 100, by rw [hd]⟩

/-- A variable for a table, and one for an entry that the table has. -/
def agreeing : List (String × String) :=
  [("OPAL_DEV", "\x7b\"port\": 3000\x7d"), ("HOME", "/root"), ("OPAL_DEV_PORT", "3000")]

theorem valueOfText_port :
    valueOfText ample.dialect "\x7b\"port\": 3000\x7d" = .table [("port", .integer 3000)] := by
  have hs : "\x7b\"port\": 3000\x7d".startsWith "\x7b" := by
    simp [String.startsWith_string_iff]
  have hl : Text.lower "\x7b\"port\": 3000\x7d" = "\x7b\"port\": 3000\x7d" := rfl
  have hi : Number.readInt "\x7b\"port\": 3000\x7d" = none := rfl
  have hb : Number.readBinary64 "\x7b\"port\": 3000\x7d" = none := rfl
  have hc : "\x7b\"port\": 3000\x7d".toList =
      ['{', '"', 'p', 'o', 'r', 't', '"', ':', ' ', '3', '0', '0', '0', '}'] := rfl
  have hj : Json.read? ample.dialect "\x7b\"port\": 3000\x7d" =
      some (.object [("port", .integer 3000)]) := by
    simp only [Json.read?, hc]
    rfl
  simp [valueOfText, hs, hl, hi, hb, hj, Value.ofJson, Value.entriesOfJson]

theorem given_agreeing : given ample.dialect agreeing =
    [("dev", .table [("port", .integer 3000)]), ("dev.port", .integer 3000)] := by
  have hd : override? ample.dialect ("OPAL_DEV", "\x7b\"port\": 3000\x7d") =
      some ("dev", .table [("port", .integer 3000)]) := by
    rw [override?, valueOfText_port]
    rfl
  have hh : override? ample.dialect ("HOME", "/root") = none := rfl
  have hp : override? ample.dialect ("OPAL_DEV_PORT", "3000") = some ("dev.port", .integer 3000) := rfl
  simp [given, agreeing, hd, hh, hp]

theorem not_contested_agreeing (k k' : String) : ¬ Contested ample.dialect agreeing k k' := by
  have ha : Compatible ("dev", .table [("port", .integer 3000)]) ("dev.port", .integer 3000) := by
    constructor
    · intro rest hr
      obtain rfl : ["port"] = rest := (List.cons.inj hr).2
      exact ⟨.integer 3000, rfl, .refl _⟩
    · intro rest hr
      cases (List.cons.inj hr).2
  rintro ⟨v, v', hv, hv', hn⟩
  rw [given_agreeing] at hv hv'
  rcases List.mem_pair.mp hv with h | h <;> rcases List.mem_pair.mp hv' with h' | h' <;>
    rw [h, h'] at hn
  · exact hn (.refl _)
  · exact hn ha
  · exact hn ha.symm
  · exact hn (.refl _)

end SceneMarkup.Settings
