import SceneMarkup.Proofs.Setting.Live.Lookup
import SceneMarkup.Proofs.Setting.Merging
import SceneMarkup.Proofs.Setting.Reordering

/-! # Environments in another order over live settings

Live settings to which an environment is added in two orders amount to the same as long as the
orders agree on contested keys and no source meets an object twice. An object that a source holds
in two places is written in both of them, and then even the order of keys apart matters.
-/

namespace SceneMarkup.LiveSettings

open Setting

open Value (Same Keyed)

/-- The same failure twice, or data that denote the same. -/
inductive SameOutcome (r r' : Except Misuse Datum × LiveSettings) : Prop where
  | ok {d d' : Datum} {v v' : Value} {as as' : List Nat} : r.1 = .ok d → r'.1 = .ok d' →
      Denotes r.2.memory [d] [v] as → Denotes r'.2.memory [d'] [v'] as' → Same v v' →
      SameOutcome r r'
  | error (e : Misuse) : r.1 = .error e → r'.1 = .error e → SameOutcome r r'

/-- The datum to which a path leads in what is returned. -/
def reads (r : Except Misuse Datum × LiveSettings) (path : List String) : Option Datum :=
  r.1.toOption.bind (walk r.2.memory path)

variable {s s' : LiveSettings} {layers layers' : List Layer} {t : Entries Value}
  {environment environment' : List (String × String)} {data data' : Option Value}
  {dialect : Json.Dialect}

theorem Depicts.keyed_merged (h : s.Depicts layers)
    (hm : merged s.limits.levels layers = .ok t) : Keyed (.table t) := by
  rcases h.table with ⟨t', a, as, s', hm', -, -, -, hd, -⟩ | ⟨e, he, -⟩
  · obtain rfl := Except.ok.inj (hm.symm.trans hm')
    exact hd.keyed _ (List.mem_singleton_self _)
  · cases hm.symm.trans he

theorem Depicts.sameOutcome_all (h : s.Depicts layers) (h' : s'.Depicts layers')
    (hl : s'.limits = s.limits)
    (ha : Alike (merged s.limits.levels layers) (merged s.limits.levels layers')) :
    SameOutcome s.all s'.all := by
  obtain ⟨herr, hok, -⟩ := h.all
  obtain ⟨herr', hok', -⟩ := h'.all
  rw [hl] at herr' hok'
  generalize hm : merged s.limits.levels layers = r,
    hm' : merged s.limits.levels layers' = r' at ha
  cases ha with
  | error e => exact .error e (herr e hm) (herr' e hm')
  | @ok t t' hs =>
    obtain ⟨hfit, hdeep⟩ := hok t hm
    obtain ⟨hfit', hdeep'⟩ := hok' t' hm'
    rw [← hs.levels_eq (h.keyed_merged hm) (h'.keyed_merged (hl ▸ hm'))] at hfit' hdeep'
    by_cases hlv : (Value.table t).levels ≤ s.limits.levels
    · obtain ⟨d, as, he, hd⟩ := hfit hlv
      obtain ⟨d', as', he', hd'⟩ := hfit' hlv
      exact .ok he he' hd hd' hs
    · exact .error .tooDeep (hdeep (Nat.not_le.mp hlv)) (hdeep' (Nat.not_le.mp hlv))

theorem SameOutcome.bare_eq {r r' : Except Misuse Datum × LiveSettings} (h : SameOutcome r r')
    (path : List String) (u u' : Plain) (hw : reads r path = some (.plain u))
    (hw' : reads r' path = some (.plain u')) : u.val.bare = u'.val.bare := by
  have value {m : Memory} {d : Datum} {v : Value} {as : List Nat} {u : Plain}
      (hd : Denotes m [d] [v] as) (hw : walk m path d = some (.plain u)) :
      find? path v = some u.val := by
    obtain ⟨bs, hb, -⟩ := hd.walk path
    rw [hw] at hb
    generalize find? path v = ov at hb
    cases hb with
    | some hd => rw [(Denotes.plain_iff.mp hd).1]
  cases h with
  | error e he =>
    rw [reads, he] at hw
    cases hw
  | ok he he' hd hd' hs =>
    rw [reads, he] at hw
    rw [reads, he'] at hw'
    have hb := hs (route path)
    rw [seen_route, seen_route, value hd hw, value hd' hw'] at hb
    exact Option.some.inj hb

theorem exists_environmentData
    (h : ∃ t, nest (overrides dialect environment) = .ok t) :
    ∃ data, Settings.environmentData? dialect environment = .ok data := by
  obtain ⟨t, ht⟩ := h
  unfold Settings.environmentData?
  split
  · exact ⟨none, rfl⟩
  · exact ⟨some t, by rw [ht]; rfl⟩

/-- Orders that agree on contested keys give layers that amount to the same. -/
theorem alike_environmentData (hn : (environment.map Prod.fst).Nodup)
    (hp : environment.Perm environment') (hk : KeepsContested dialect environment environment')
    (hd : Settings.environmentData? dialect environment = .ok data)
    (hd' : Settings.environmentData? dialect environment' = .ok data') (levels : Nat) :
    Alike (merged levels (layers ++ (data.map (⟨"env", ·, 100⟩)).toList))
      (merged levels (layers ++ (data'.map (⟨"env", ·, 100⟩)).toList)) := by
  have hn' : (environment'.map Prod.fst).Nodup := (hp.map Prod.fst).nodup_iff.mp hn
  have hnil : overrides dialect environment = [] ↔ overrides dialect environment' = [] :=
    overrides_eq_nil_iff hn hp
  have hkeyed {t : Value} (h : nest (overrides dialect environment) = .ok t) : Keyed t :=
    keyed_nest_overrides hn h
  have hkeyed' {t : Value} (h : nest (overrides dialect environment') = .ok t) : Keyed t :=
    keyed_nest_overrides hn' h
  have hsame {t t' : Value} (h : nest (overrides dialect environment) = .ok t)
      (h' : nest (overrides dialect environment') = .ok t') : Same t t' :=
    same_nest_overrides hn hp hk h h'
  unfold Settings.environmentData? at hd hd'
  generalize overrides dialect environment = flat, overrides dialect environment' = flat'
    at hd hd' hnil hkeyed hkeyed' hsame
  cases flat with
  | nil =>
    obtain rfl := hnil.mp rfl
    obtain rfl := Except.ok.inj hd
    obtain rfl := Except.ok.inj hd'
    exact .refl _
  | cons e flat =>
    cases flat' with
    | nil => cases hnil.mpr rfl
    | cons e' flat' =>
      dsimp only at hd hd'
      generalize nest (e :: flat) = r, nest (e' :: flat') = r' at hd hd' hkeyed hkeyed' hsame
      cases r with
      | error misuse => cases hd
      | ok t =>
        cases r' with
        | error misuse => cases hd'
        | ok t' =>
          obtain rfl := Except.ok.inj hd
          obtain rfl := Except.ok.inj hd'
          exact alike_merged rfl (hkeyed rfl) (hkeyed' rfl) (hsame rfl rfl)

/-- Settings with a number that the variables of an environment cover. -/
def based : LiveSettings :=
  ⟨Settings.ample, [port 8080, .table [("dev", .object 0)]], [⟨"base", .object 1, 10⟩], none⟩

theorem depicts_based :
    based.Depicts [⟨"base", .table [("dev", .table [("port", .integer 8080)])], 10⟩] := by
  refine depicts_of_view_eq_none ?_ rfl
  exact .cons ⟨rfl, rfl, [1, 0], denotes_of_read 2 (by cbv), by decide⟩ .nil

/-- Two variables for one key. -/
def collided : List (String × String) := [("OPAL_DEV_PORT", "1"), ("OPAL_dev_port", "2")]

/-- These, and behind them one for another key. -/
def kept : List (String × String) :=
  [("OPAL_DEV_PORT", "1"), ("OPAL_dev_port", "2"), ("OPAL_CACHE_SIZE", "64")]

/-- These, and in front of them the one for the other key. -/
def moved : List (String × String) :=
  [("OPAL_CACHE_SIZE", "64"), ("OPAL_DEV_PORT", "1"), ("OPAL_dev_port", "2")]

theorem override?_one :
    override? dialect ("OPAL_DEV_PORT", "1") = some ("dev.port", .integer 1) := rfl

theorem override?_two :
    override? dialect ("OPAL_dev_port", "2") = some ("dev.port", .integer 2) := rfl

theorem override?_cacheSize :
    override? dialect ("OPAL_CACHE_SIZE", "64") = some ("cache.size", .integer 64) := rfl

theorem keepsContested_kept : KeepsContested dialect kept moved := by
  have apart : ¬ Contested dialect kept "dev.port" "cache.size" :=
    not_contested_of_apart (by decide) (by decide)
  have one {e : String × Value} (h : override? dialect ("OPAL_DEV_PORT", "1") = some e) :
      e.1 = "dev.port" := by rw [← Option.some.inj (override?_one.symm.trans h)]
  have two {e : String × Value} (h : override? dialect ("OPAL_dev_port", "2") = some e) :
      e.1 = "dev.port" := by rw [← Option.some.inj (override?_two.symm.trans h)]
  have size {e : String × Value} (h : override? dialect ("OPAL_CACHE_SIZE", "64") = some e) :
      e.1 = "cache.size" := by rw [← Option.some.inj (override?_cacheSize.symm.trans h)]
  refine .cons ?_ (.cons ?_ (.cons (by simp) .nil))
  · intro y hy e e' he he' hc
    rcases List.mem_pair.mp hy with rfl | rfl
    · simp [moved]
    · exact absurd (one he ▸ size he' ▸ hc) apart
  · intro y hy e e' he he' hc
    obtain rfl := List.mem_singleton.mp hy
    exact absurd (two he ▸ size he' ▸ hc) apart

theorem overrides_kept : overrides dialect kept =
    [("dev.port", .integer 2), ("cache.size", .integer 64)] := by
  rw [overrides_eq (by decide), given, kept]
  simp [override?_one, override?_two, override?_cacheSize, Entries.ofList, Entries.update,
    Entries.put]

theorem overrides_moved : overrides dialect moved =
    [("cache.size", .integer 64), ("dev.port", .integer 2)] := by
  rw [overrides_eq (by decide), given, moved]
  simp [override?_one, override?_two, override?_cacheSize, Entries.ofList, Entries.update,
    Entries.put]

/-- Variables for an entry of a table that stands under two keys. -/
def staged : List (String × String) := [("OPAL_STAGING_PORT", "2"), ("OPAL_PREVIEW_PORT", "3")]

end SceneMarkup.LiveSettings
