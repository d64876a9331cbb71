import Mathlib
import SceneMarkup.Proofs.Setting.Live.Depiction
import SceneMarkup.Proofs.Setting.Writing

/-! # Looking up a key

Live settings answer a key with what the topmost layer that decides it settles. The sources of a
project are the defaults, its file, its environment and what is set at run time, each on top of
those before it. An object that a source holds in two places breaks this: what is laid over it in
one of them is seen in the other.
-/

namespace SceneMarkup

namespace Setting

variable {m : Memory} {sources : List Source} {layers : List Layer} {levels : Nat}

theorem keyed_of_depicts (h : List.Forall₂ (Source.Depicts m) sources layers) :
    ∀ l ∈ layers, Value.Keyed l.data := by
  intro l hl
  obtain ⟨source, -, -, -, as, hd, -⟩ := exists_of_mem_right h hl
  exact hd.keyed _ (List.mem_singleton_self _)

theorem standing_eq_of_depicts (h : List.Forall₂ (Source.Depicts m) sources layers) :
    (sources.map fun source => (source.name, source.priority)) =
      layers.map fun l => (l.name, l.priority) := by
  induction h with
  | nil => rfl
  | cons h _ ih => rw [List.map_cons, ih, h.name, h.priority, List.map_cons]

theorem answer_resolves (h : ∀ l ∈ layers, l.IsTable) (levels : Nat) (key : String) :
    ((∀ l ∈ layers, l.data.levels ≤ levels) ∧
      ∃ o, Resolves layers (steps key) o ∧ answer levels layers key = .ok o) ∨
    ((∃ l ∈ layers, levels < l.data.levels) ∧ answer levels layers key = .error .tooDeep) := by
  have hr : ∀ l ∈ ranked layers, l.IsTable := fun l hl => h l ((ranked_perm _).mem_iff.mp hl)
  by_cases hf : Fit levels layers
  · refine .inl ⟨hf, _, resolves_find? h (steps_ne_nil key), ?_⟩
    obtain ⟨t, ht, hst⟩ :=
      foldlM_addLayer hr (fun l hl => hf l ((ranked_perm _).mem_iff.mp hl)) []
    rw [answer, merged, ht, stacked, hst]
    rfl
  · refine .inr ⟨by simpa [Fit] using hf, ?_⟩
    rw [answer, merged_of_not_fit h hf]
    rfl

end Setting

namespace LiveSettings

open Setting

open Settings (runtimeName runtimePriority)

variable {s t start : LiveSettings} {layers : List Layer} {limits : Limits} {m : Memory}
  {file : Option Datum} {environment : List (String × String)}

/-! ### The sources of a project -/

def standing (s : LiveSettings) : List (String × Int) :=
  s.sources.map fun source => (source.name, source.priority)

theorem standing_set (s : LiveSettings) (key : String) (d : Datum) :
    (s.set key d).2.standing = if s.standing.any (·.1 == runtimeName) then s.standing
      else s.standing ++ [(runtimeName, runtimePriority)] := by
  have hs : (s.set key d).2.sources = s.withRuntime.sources := by
    rw [set]
    split
    · rfl
    · split <;> rfl
  rw [standing, hs, withRuntime, standing, List.any_map]
  split
  · next h => rw [if_pos (by simpa [Function.comp_def] using h)]
  · next h => rw [if_neg (by simpa [Function.comp_def] using h), List.map_append]; rfl

def setAll (s : LiveSettings) (writes : List (String × Datum)) : LiveSettings :=
  writes.foldl (fun s w => (s.set w.1 w.2).2) s

theorem standing_setAll (writes : List (String × Datum)) {base : List (String × Int)}
    (hb : ∀ e ∈ base, e.1 ≠ runtimeName)
    (h : s.standing = base ∨ s.standing = base ++ [(runtimeName, runtimePriority)]) :
    (s.setAll writes).standing.Sublist
      (base ++ [(runtimeName, runtimePriority)]) := by
  induction writes generalizing s with
  | nil =>
    rcases h with h | h
    · exact h ▸ List.sublist_append_left ..
    · exact h ▸ .refl _
  | cons w writes ih =>
    refine ih (.inr ?_)
    rw [standing_set]
    rcases h with h | h
    · have hn : ¬ base.any (·.1 == runtimeName) := by
        simpa using fun (i : Int) hm => hb (runtimeName, i) hm rfl
      rw [h, if_neg hn]
    · have hy : (base ++ [(runtimeName, runtimePriority)]).any (·.1 == runtimeName) := by simp
      rw [h, if_pos hy]

theorem standing_addEnvironment (h : s.addEnvironment environment = .ok t) :
    t.standing = s.standing ∨ t.standing = s.standing ++ [("env", 100)] := by
  obtain ⟨hnone, hsome, herr⟩ := s.addEnvironment_spec environment
  rcases hd : Settings.environmentData? s.limits.dialect environment with e | _ | data
  · cases h.symm.trans (herr e hd)
  · obtain rfl := Except.ok.inj (h.symm.trans (hnone hd))
    exact .inl rfl
  · obtain ⟨d, m, hs, -⟩ := hsome data hd
    obtain rfl := Except.ok.inj (h.symm.trans hs)
    exact .inr List.map_append

theorem standing_ofProject (h : ofProject limits m file environment = .ok start) :
    start.standing.Sublist [("defaults", 0), ("file:opal.config.py", 10), ("env", 100)] := by
  unfold ofProject ofDefaults at h
  cases hc : copy limits.levels (store standard m).2 (store standard m).1 with
  | error e =>
    rw [hc] at h
    cases h
  | ok p =>
    rw [hc] at h
    have hf : (file.elim ((empty limits p.2).addSource "defaults" p.1 0)
        (((empty limits p.2).addSource "defaults" p.1 0).addSource ("file:" ++ fileName) · 10)).standing.Sublist
          [("defaults", 0), ("file:opal.config.py", 10)] := by
      cases file with
      | none => exact (List.sublist_append_left [_] [_])
      | some d => exact .refl _
    rcases standing_addEnvironment h with hs | hs
    · exact hs ▸ hf.trans (List.sublist_append_left [_, _] [_])
    · exact hs ▸ hf.append_right [_]

/-- Settings of a project in which keys were set at run time. -/
def IsProject (s : LiveSettings) : Prop :=
  ∃ limits m file environment start writes, ofProject limits m file environment = .ok start ∧
    start.setAll writes = s

theorem IsProject.standing_sublist (h : s.IsProject) : s.standing.Sublist
    [("defaults", 0), ("file:opal.config.py", 10), ("env", 100), ("runtime", 1000)] := by
  obtain ⟨limits, m, file, environment, start, writes, hs, rfl⟩ := h
  have hb := standing_ofProject hs
  have hn : ∀ e ∈ start.standing, e.1 ≠ runtimeName := by
    intro e he
    have := hb.subset he
    simp only [List.mem_cons, List.not_mem_nil, or_false] at this
    rcases this with rfl | rfl | rfl <;> simp [runtimeName]
  exact (standing_setAll writes hn (.inl rfl)).trans (hb.append_right _)

/-! ### Answers -/

open Datum (text number)

/-- The settings of a project with a file, in which the environment and a write at run time set
further keys. -/
def overridden : LiveSettings where
  limits := Settings.ample
  memory := [
    .table [("host", text "0.0.0.0"), ("port", number 3000)],
    .table [("dev", .object 0)],
    .table [("entry", text "src/index.opal"), ("outfile", text "dist/index.js")],
    .table [("host", text "127.0.0.1"), ("port", number 8080), ("upstream", .null)],
    .table [("level", text "info"), ("format", text "text")],
    .table [("build", .object 2), ("dev", .object 3), ("log", .object 4)],
    .table [("build", .object 7), ("dev", .object 8), ("log", .object 9)],
    .table [("entry", text "src/index.opal"), ("outfile", text "dist/index.js")],
    .table [("host", text "127.0.0.1"), ("port", number 8080), ("upstream", .null)],
    .table [("level", text "info"), ("format", text "text")],
    .table [("dev", .object 11)],
    .table [("port", number 9000)],
    .table [("dev", .object 13)],
    .table [("upstream", text "localhost")]]
  sources := [⟨"defaults", .object 6, 0⟩, ⟨"file:opal.config.py", .object 1, 10⟩,
    ⟨"env", .object 10, 100⟩, ⟨"runtime", .object 12, 1000⟩]
  view := none

def overriddenLayers : List Layer := [
  ⟨"defaults", standard, 0⟩,
  ⟨"file:opal.config.py",
    .table [("dev", .table [("host", .text "0.0.0.0"), ("port", .integer 3000)])], 10⟩,
  ⟨"env", .table [("dev", .table [("port", .integer 9000)])], 100⟩,
  ⟨"runtime", .table [("dev", .table [("upstream", .text "localhost")])], 1000⟩]

def filed : LiveSettings :=
  { overridden with memory := overridden.memory.take 10, sources := overridden.sources.take 2 }

def started : LiveSettings :=
  { overridden with memory := overridden.memory.take 12, sources := overridden.sources.take 3 }

theorem addEnvironment_filed : filed.addEnvironment [("OPAL_DEV_PORT", "9000")] = .ok started := by
  have ho : overrides filed.limits.dialect [("OPAL_DEV_PORT", "9000")] =
      [("dev.port", .integer 9000)] := rfl
  have hn : storeNested [("dev.port", .integer 9000)] filed.memory =
      .ok (.object 10, started.memory) := by cbv
  exact addEnvironment_of_overrides ho hn

theorem setAll_started : started.setAll [("dev.upstream", text "localhost")] = overridden := by
  have hr : started.withRuntime = ⟨Settings.ample, overridden.memory.take 12 ++ [Cell.table []],
      overridden.sources, none⟩ := by
    rw [withRuntime, if_neg (by decide)]
    rfl
  have hf : started.withRuntime.sources.find? (·.name == runtimeName) =
      some ⟨"runtime", .object 12, 1000⟩ := by
    rw [hr]
    rfl
  have hw : write (text "localhost") (steps "dev.upstream") (.object 12)
      started.withRuntime.memory = (.ok (), overridden.memory) := by
    rw [hr]
    cbv
  have hs := set_ok hf hw
  rw [hr] at hs
  exact congrArg Prod.snd hs

theorem isProject_overridden : overridden.IsProject := by
  have hd : ofDefaults Settings.ample (store standard (overridden.memory.take 2)).2
      (store standard (overridden.memory.take 2)).1 =
      .ok { filed with sources := overridden.sources.take 1 } := by cbv
  refine ⟨Settings.ample, overridden.memory.take 2, some (.object 1), [("OPAL_DEV_PORT", "9000")],
    started, [("dev.upstream", text "localhost")], ?_, setAll_started⟩
  rw [ofProject, hd]
  exact addEnvironment_filed

theorem depicts_overridden : overridden.Depicts overriddenLayers := by
  refine depicts_of_view_eq_none ?_ rfl
  refine .cons ⟨rfl, rfl, [6, 7, 8, 9], denotes_of_read 2 (by cbv), by decide⟩ ?_
  refine .cons ⟨rfl, rfl, [1, 0], denotes_of_read 2 (by cbv), by decide⟩ ?_
  refine .cons ⟨rfl, rfl, [10, 11], denotes_of_read 2 (by cbv), by decide⟩ ?_
  exact .cons ⟨rfl, rfl, [12, 13], denotes_of_read 2 (by cbv), by decide⟩ .nil

def port (i : Int) : Cell := .table [("port", number i)]

def ports (a b : Nat) : Cell := .table [("staging", .object a), ("preview", .object b)]

/-- Settings with a source that holds one table under two keys. -/
def twins : LiveSettings := ⟨Settings.ample, [port 1, ports 0 0], [⟨"base", .object 1, 10⟩], none⟩

def covered : LiveSettings :=
  ⟨Settings.ample, [port 1, ports 0 0, ports 3 4, port 2, port 3],
    [⟨"base", .object 1, 10⟩, ⟨"env", .object 2, 100⟩], none⟩

def portsLayer (name : String) (i j : Int) (priority : Int) : Layer :=
  ⟨name, .table [("staging", .table [("port", .integer i)]),
    ("preview", .table [("port", .integer j)])], priority⟩

theorem topmost_of_mem_pair (below above : Layer) {path : List String}
    (hp : below.priority < above.priority) (hd : above.Decides path) :
    Topmost [below, above] path above ∧ Topmost [above, below] path above := by
  refine ⟨⟨1, rfl, hd, ?_⟩, ⟨0, rfl, hd, ?_⟩⟩
  · rintro (_ | _ | j) l hl -
    · exact .inl (Option.some.inj hl ▸ hp)
    · exact .inr ⟨Option.some.inj hl ▸ rfl, Nat.le_refl 1⟩
    · cases hl
  · rintro (_ | _ | j) l hl -
    · exact .inr ⟨Option.some.inj hl ▸ rfl, Nat.le_refl 0⟩
    · exact .inl (Option.some.inj hl ▸ hp)
    · cases hl

def nested : Nat → Value
  | 0 => .list []
  | n + 1 => .list [nested n]

theorem levels_nested (n : Nat) : (nested n).levels = n + 1 := by
  induction n with
  | zero => rfl
  | succ n ih => simp [nested, Value.levels, Value.levelsOfElements, ih, Nat.add_comm]

theorem keyed_nested (n : Nat) : Value.Keyed (nested n) := by
  induction n with
  | zero => exact .list (by simp)
  | succ n ih => exact .list (by simpa using ih)

def topLayer : Layer := ⟨"top", .table [("x", .integer 1)], 200⟩

def deepLayer (limits : Limits) : Layer := ⟨"env", .table [("x", nested limits.levels)], 100⟩

theorem exists_crowded (limits : Limits) :
    ∃ s : LiveSettings, s.limits = limits ∧ s.Depicts [topLayer, deepLayer limits] := by
  have entry {v : Value} (hv : Value.Keyed v) : Value.Keyed (.table [("x", v)]) :=
    .table (by simp) (by simpa using hv)
  obtain ⟨-, as, ha, hna, -⟩ :=
    new_store (.table [("x", .integer 1)]) (entry (.plain (by simp) (by simp))) []
  obtain ⟨hm, bs, hb, hnb, -⟩ := new_store _ (entry (keyed_nested limits.levels))
    (store (.table [("x", .integer 1)]) []).2
  have h := depicts_of_view_eq_none (s := empty limits
    (store (.table [("x", nested limits.levels)]) (store (.table [("x", .integer 1)]) []).2).2) .nil rfl
  exact ⟨_, rfl, (h.addSource (ha.of_prefix hm) hna).addSource hb hnb⟩

end LiveSettings

end SceneMarkup
