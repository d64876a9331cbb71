import SceneMarkup.Proofs.Setting.Live.Values

/-! # What is set at run time

In live settings to which every object is handed over once, setting a key is seen under that key,
and leaves all keys apart from it as they are. A write that is refused leaves nothing behind.
-/

namespace SceneMarkup.LiveSettings

open Setting

open Settings (runtimeName runtimePriority)

open Datum (text number)

/-- Something that is no table stands on the way to the key in what is set at run time. -/
def BlockedAtRunTime (s : LiveSettings) (key : String) : Prop :=
  ∃ front back d, steps key = front ++ back ∧ front ≠ [] ∧ back ≠ [] ∧
    (∃ source ∈ s.sources, source.name = runtimeName ∧
      walk s.memory front source.data = some d) ∧ tableAt? s.memory d = none

/-- No source is too deep to be copied. -/
def Fits (s : LiveSettings) : Prop :=
  ∀ source ∈ s.sources, ∃ v as, Denotes s.memory [source.data] [v] as ∧ v.levels ≤ s.limits.levels

variable {s : LiveSettings} {layers before after : List Layer} {data : Option Value}
  {d default : Datum} {v : Value} {vs : List Value} {m : Memory} {sources : List Source}
  {as : List Nat} {limits : Limits} {key : String}

/-! ### Sources and layers -/

theorem Depicts.fits_iff (h : s.Depicts layers) : s.Fits ↔ Fit s.limits.levels layers := by
  constructor
  · intro hf l hm
    obtain ⟨source, hsm, -, -, as, ha, -⟩ := exists_of_mem_right h.sources hm
    obtain ⟨v, bs, hb, hv⟩ := hf source hsm
    obtain rfl := (List.cons.inj (hb.unique ha).1).1
    exact hv
  · intro hf source hm
    obtain ⟨l, hlm, -, -, as, ha, -⟩ := exists_of_mem_left h.sources hm
    exact ⟨l.data, as, ha, hf l hlm⟩

theorem exists_walk_iff (h : Denotes m [d] [v] as) (path : List String) :
    (∃ d', walk m path d = some d' ∧ tableAt? m d' = none) ↔
      ∃ w, find? path v = some w ∧ ∀ es, w ≠ .table es := by
  obtain ⟨bs, hw, -⟩ := h.walk path
  generalize walk m path d = od, find? path v = ov at hw
  cases hw with
  | none => simp
  | @some d' w _ hd =>
    rcases table_or_ne w with ⟨es, rfl⟩ | hne
    · obtain ⟨a, rfl⟩ := hd.exists_object
      simp [hd.tableAt?_eq]
    · simp [hd.tableAt?_eq_none hne, hne]

/-- A path leads the source of what is set at run time where it leads what is set. -/
theorem Depicts.exists_runtime_iff (h : s.Depicts layers) (ht : Tops layers before after data)
    {path : List String} (hp : path ≠ []) :
    (∃ d, (∃ source ∈ s.sources, source.name = runtimeName ∧
      walk s.memory path source.data = some d) ∧ tableAt? s.memory d = none) ↔
      ∃ w, find? path (runtimeData data) = some w ∧ ∀ es, w ≠ .table es := by
  constructor
  · rintro ⟨d, ⟨source, hm, hname, hw⟩, hd⟩
    obtain ⟨l, hlm, hsl⟩ := exists_of_mem_left h.sources hm
    obtain ⟨as, ha, -⟩ := hsl.data
    have hr : l.data = runtimeData data := by
      rw [ht.layers, List.mem_append, List.mem_append] at hlm
      rcases hlm with hlm | hlm | hlm
      · exact absurd (hsl.name.symm.trans hname) (ht.lower l (by simp [hlm])).name
      · cases data with
        | none => cases hlm
        | some w =>
          obtain rfl := List.mem_singleton.mp hlm
          rfl
      · exact absurd (hsl.name.symm.trans hname) (ht.lower l (by simp [hlm])).name
    exact hr ▸ (exists_walk_iff ha path).mp ⟨d, hw, hd⟩
  · intro hw
    cases data with
    | none =>
      obtain ⟨p, ps, rfl⟩ := List.exists_cons_of_ne_nil hp
      obtain ⟨w, hw, -⟩ := hw
      cases hw
    | some u =>
      have hm : ⟨runtimeName, u, runtimePriority⟩ ∈ layers := by simp [ht.layers, runtimeLayers]
      obtain ⟨source, hm, hsl⟩ := exists_of_mem_right h.sources hm
      obtain ⟨as, ha, -⟩ := hsl.data
      obtain ⟨d, hd, hn⟩ := (exists_walk_iff ha path).mpr hw
      exact ⟨d, ⟨source, hm, hsl.name, hd⟩, hn⟩

theorem Depicts.blocked_iff (h : s.Depicts layers) (ht : Tops layers before after data)
    (key : String) : Blocks (runtimeData data) (steps key) ↔ s.BlockedAtRunTime key := by
  constructor
  · rintro ⟨front, back, w, hp, hb, hw, hne⟩
    have hf : front ≠ [] := by
      rintro rfl
      obtain ⟨es, he⟩ := ht.data?.table
      rw [find?_nil, he] at hw
      exact hne es (Option.some.inj hw).symm
    obtain ⟨d, hd, hn⟩ := (h.exists_runtime_iff ht hf).mpr ⟨w, hw, hne⟩
    exact ⟨front, back, d, hp, hf, hb, hd, hn⟩
  · rintro ⟨front, back, d, hp, hf, hb, hd, hn⟩
    obtain ⟨w, hw, hne⟩ := (h.exists_runtime_iff ht hf).mp ⟨d, hd, hn⟩
    exact ⟨front, back, w, hp, hb, hw, hne⟩

/-! ### The law of setting -/

/-- A number below, and something beside the key that is set. -/
def numbered : LiveSettings where
  limits := Settings.ample
  memory := [.table [("dev", number 8080)], .table [("dev", .object 2)],
    .table [("host", text "localhost")]]
  sources := [⟨"base", .object 0, 0⟩, ⟨"runtime", .object 1, 1000⟩]
  view := none

theorem takes_plain (hd : Denotes s.memory (s.sources.map Source.data) vs as) (hn : as.Nodup)
    (u : Plain) : s.Takes (.plain u) u.val := by
  refine ⟨[], .plain u .nil, fun vs bs hb => ?_⟩
  rw [List.append_nil, (hb.unique hd).2]
  exact hn

theorem sourcesDenote_numbered : Denotes numbered.memory (numbered.sources.map Source.data)
    [.table [("dev", .integer 8080)], .table [("dev", .table [("host", .text "localhost")])]]
    [0, 1, 2] := by
  have hb : Denotes numbered.memory [.object 0] [.table [("dev", .integer 8080)]] [0] :=
    denotes_of_read 1 (by cbv)
  have hr : Denotes numbered.memory [.object 1]
      [.table [("dev", .table [("host", .text "localhost")])]] [1, 2] :=
    denotes_of_read 2 (by cbv)
  exact hb.append hr

theorem reached_numbered : Reached Settings.ample numbered := by
  let start : LiveSettings :=
    ⟨Settings.ample, [.table [("dev", number 8080)]], [⟨"base", .object 0, 0⟩], none⟩
  have hb : Denotes start.memory [.object 0] [.table [("dev", .integer 8080)]] [0] :=
    denotes_of_read 1 (by cbv)
  have hs : Reached Settings.ample start := by
    have ht : (empty Settings.ample start.memory).Takes (.object 0)
        (.table [("dev", .integer 8080)]) := by
      refine ⟨[0], hb, fun vs as ha => ?_⟩
      cases ha
      decide
    exact .addSource (.create start.memory) (by decide) (by decide) ht
  have hn : (start.set "dev.host" (text "localhost")).2 = numbered := by cbv
  exact hn ▸ .set "dev.host" hs (takes_plain hb (by decide) ⟨.text "localhost", by simp⟩)

/-- These settings with the key that is set. -/
def renumbered : LiveSettings :=
  { numbered with memory := [.table [("dev", number 8080)], .table [("dev", .object 2)],
    .table [("host", text "localhost"), ("port", number 3000)]] }

theorem set_numbered : numbered.set "dev.port" (number 3000) = (.ok (), renumbered) := by cbv

theorem fits_of_read {n : Nat} (h : ∀ source ∈ s.sources, ∃ r, read s.memory n source.data = some r ∧
    r.1.levels ≤ s.limits.levels) : s.Fits := by
  intro source hm
  obtain ⟨⟨v, as⟩, hr, hl⟩ := h source hm
  exact ⟨v, as, denotes_of_read n hr, hl⟩

/-- One table, set under two keys. -/
def twice : LiveSettings :=
  ⟨Settings.ample, [port 1, ports 0 0], [⟨"runtime", .object 1, 1000⟩], none⟩

theorem length_steps_replicate (n : Nat) :
    (steps (String.ofList (List.replicate n '.'))).length = n + 1 := by
  rw [steps, String.toList_ofList, List.length_map]
  induction n with
  | zero => rfl
  | succ n ih => rw [List.replicate_succ, Text.splitOnP_cons_of_pos rfl, List.length_cons, ih]

/-- A number under a key of too many parts is taken, and cannot be read again. -/
theorem get_set_of_long (limits : Limits) (hk : limits.levels ≤ (steps key).length) :
    ((empty limits []).set key (number 1)).1 = .ok () ∧
      (((empty limits []).set key (number 1)).2.get key default).1 = .error .tooDeep := by
  have hd : (empty limits []).Takes (number 1) (.integer 1) :=
    takes_plain .nil .nil ⟨.integer 1, by simp⟩
  rcases (keeps_empty limits []).set tops_nil hd key with
    ⟨e, ha, -⟩ | ⟨w, s', ha, he, hlim, h'⟩
  · obtain ⟨t, ht⟩ := Settings.exists_assign_nil (.integer 1) (steps key)
    cases ha.symm.trans ht
  · have ht := tops_nil.assign (.plain (by simp) (by simp)) ha
    rw [runtimeData, Option.getD_none, assign_table_nil _ (steps_ne_nil key)] at ha
    obtain rfl := Except.ok.inj ha
    have hr := (h'.depicts.get key default).1
    rw [ht.answer_of_not_fit] at hr
    · rw [he]
      refine ⟨rfl, ?_⟩
      generalize s'.get key default = r at hr
      cases hr
      rfl
    · intro hf
      have hw := (ht.fit hf).2 _ rfl
      rw [levels_spread, hlim] at hw
      have : (empty limits []).limits.levels = limits.levels := rfl
      have hp := Value.levels_pos (.integer 1)
      omega

end SceneMarkup.LiveSettings
