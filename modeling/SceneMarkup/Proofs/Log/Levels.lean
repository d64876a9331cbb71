import SceneMarkup.Proofs.Log.Sharing

/-! # Levels

A logger of the registry has the level that it was given last. Until it is given one it has the
level that the root had when the logger was created, and a new root has level INFO.
-/

namespace SceneMarkup.Log

open Registry (rootName)

/-- The level that an operation gives to the logger with a name, if there is one and if it gives
any. -/
def Operation.given? (name : String) : Operation → Option Level
  | .get _ asked level => if asked = name then level else none
  | .configure _ _ level _ _ => (Level.parse level).toOption
  | _ => none

def Operation.Creates (name : String) : Operation → Prop
  | .get _ asked _ => name = asked ∨ name = rootName
  | .configure _ _ level _ _ => name = rootName ∧ ∃ l, Level.parse level = .ok l
  | _ => False

/-- The level that the logger with a name has behind operations. -/
inductive HasLevel : List Operation → String → Level → Prop where

  /-- It is there, was given a level, and no other since. -/
  | given {front back : List Operation} {operation : Operation} {name : String} {level : Level} :
      (∃ o ∈ front ++ [operation], o.Creates name) → operation.given? name = some level →
      (∀ o ∈ back, o.given? name = none) → HasLevel (front ++ operation :: back) name level

  /-- The root was created and has been given no level. -/
  | fresh {front back : List Operation} {operation : Operation} :
      (∀ o ∈ front, ¬ o.Creates rootName) → operation.Creates rootName →
      (∀ o ∈ operation :: back, o.given? rootName = none) →
      HasLevel (front ++ operation :: back) rootName .info

  /-- It was created with the level of the root, and has been given none. -/
  | inherited {front back : List Operation} {operation : Operation} {name : String}
      {level : Level} : name ≠ rootName → (∀ o ∈ front, ¬ o.Creates name) →
      operation.Creates name → (∀ o ∈ operation :: back, o.given? name = none) →
      HasLevel (front ++ [operation]) rootName level →
      HasLevel (front ++ operation :: back) name level

namespace Registry

variable {r : Registry} {terminal : Bool} {name asked : String} {level : Level}

theorem get?_levels (r : Registry) (name : String) :
    r.levels.get? name = (r.loggers.get? name).map Logger.level := by
  rw [levels, ← Entries.get?_map]

theorem levels_put (r : Registry) (asked : String) (l : Logger) (name : String) :
    (levels { r with loggers := r.loggers.put asked l }).get? name =
      if asked = name then some l.level else r.levels.get? name := by
  rw [get?_levels, Entries.get?_put, get?_levels]
  split
  · rfl
  · rfl

theorem levels_setLevels (r : Registry) (level : Level) (name : String) :
    (r.setLevels level).levels.get? name = (r.levels.get? name).map fun _ => level := by
  rw [get?_levels, get?_setLevels, get?_levels, Option.map_map, Option.map_map]
  rfl

/-- The level of the root, or the one it will have. -/
def rootLevel (r : Registry) : Level := (r.levels.get? rootName).getD .info

theorem levels_ensureRoot (r : Registry) (terminal : Bool) (name : String) :
    (r.ensureRoot terminal).levels.get? name =
      if name = rootName then some r.rootLevel else r.levels.get? name := by
  cases hr : r.root? with
  | some root =>
    have hl : r.levels.get? rootName = some root.level := by
      rw [get?_levels, ← root?, hr]
      rfl
    rw [ensureRoot, withRoot_of_some hr, rootLevel, hl]
    split
    · next hn => rw [hn, hl, Option.getD_some]
    · rfl
  | none =>
    have hl : r.levels.get? rootName = none := by
      rw [get?_levels, ← root?, hr]
      rfl
    rw [ensureRoot, withRoot, hr, rootLevel, hl, get?_levels, get?_levels]
    dsimp only
    rw [Entries.get?_put]
    by_cases hn : name = rootName
    · rw [if_pos hn.symm, if_pos hn]
      rfl
    · rw [if_neg (Ne.symm hn), if_neg hn]

theorem level_withRoot (r : Registry) (terminal : Bool) :
    (r.withRoot terminal).1.level = r.rootLevel := by
  have hl := levels_ensureRoot r terminal rootName
  rw [if_pos rfl, get?_levels] at hl
  have hr := root?_withRoot r terminal
  rw [root?] at hr
  rw [ensureRoot, hr] at hl
  exact Option.some.inj hl

/-- A logger that is asked for has the level that is given, or else the one it had; a new one has
the level of the root. -/
theorem levels_getLogger (r : Registry) (terminal : Bool) (asked : String) (level : Option Level)
    (name : String) : (r.getLogger terminal asked level).levels.get? name =
      if asked = name then some (level.getD ((r.levels.get? name).getD r.rootLevel))
      else if name = rootName then some r.rootLevel else r.levels.get? name := by
  have he : (r.levels.get? name).getD r.rootLevel =
      ((r.ensureRoot terminal).levels.get? name).getD r.rootLevel := by
    rw [levels_ensureRoot]
    split
    · next hn =>
      rw [hn, rootLevel]
      cases r.levels.get? rootName <;> rfl
    · rfl
  rw [← levels_ensureRoot r terminal name, he, getLogger]
  dsimp only
  split
  · next hl =>
    rw [levels_put, level_withRoot, ← ensureRoot]
    split
    · next hn =>
      rw [← hn, get?_levels, ensureRoot, hl]
      rfl
    · rfl
  · rw [levels_put, ← ensureRoot]
    rfl
  · next l hl =>
    rw [← ensureRoot]
    split
    · next hn =>
      rw [← hn, get?_levels, ensureRoot, hl]
      rfl
    · rfl

theorem levels_reset (r : Registry) (terminal : Bool) (made : Handler) (name : String) :
    (r.reset terminal made).levels.get? name =
      if name = rootName then some made.level
      else (r.levels.get? name).map fun _ => made.level := by
  have he : (r.reset terminal made).levels.get? name =
      ((r.ensureRoot terminal).levels.get? name).map fun _ => made.level := by
    rw [reset]
    dsimp only
    rw [levels_setLevels]
    rfl
  rw [he, levels_ensureRoot]
  split
  · rfl
  · rfl

end Registry

namespace Session

variable {s : Session} {operation : Operation} {name : String} {level : Level}

/-- The level of a named logger. -/
def level? (s : Session) (name : String) : Option Level := s.registry.levels.get? name

def rootLevel (s : Session) : Level := s.registry.rootLevel

inductive Relevels (s : Session) (after : String → Option Level) : Operation → Prop where

  | get (terminal : Bool) {asked : String} {given : Option Level} :
      (∀ name, after name =
        if asked = name then some (given.getD ((s.level? name).getD s.rootLevel))
        else if name = rootName then some s.rootLevel else s.level? name) →
      Relevels s after (.get terminal asked given)

  | configure (depth : Nat) (terminal : Bool) {value : Value} (format : Value) (colors : Bool)
      {level : Level} :
      Level.parse value = .ok level →
      (∀ name, after name =
        if name = rootName then some level else (s.level? name).map fun _ => level) →
      Relevels s after (.configure depth terminal value format colors)

  | other {operation : Operation} :
      (∀ name, operation.given? name = none ∧ ¬ operation.Creates name) →
      (∀ name, after name = s.level? name) → Relevels s after operation

theorem relevels_step (s : Session) (operation : Operation) :
    s.Relevels (s.step operation).level? operation := by
  have other (h : ∀ name, operation.given? name = none ∧ ¬ operation.Creates name)
      (hl : (s.step operation).registry.loggers = s.registry.loggers) :
      s.Relevels (s.step operation).level? operation := by
    apply Relevels.other h
    intro name
    rw [level?, level?, Registry.levels, hl, Registry.levels]
  cases operation with
  | get terminal asked given =>
    apply Relevels.get
    exact Registry.levels_getLogger s.registry terminal asked given
  | configure depth terminal value format colors =>
    cases hp : Level.parse value with
    | error unknown =>
      apply other
      · intro name
        simp [Operation.given?, Operation.Creates, hp, Except.toOption]
      · rw [step, Registry.configure, hp]
        rfl
    | ok level =>
      apply Relevels.configure depth terminal format colors hp
      rw [step, Registry.configure, hp]
      exact Registry.levels_reset s.registry terminal ⟨level, _⟩
  | log source event => exact other (fun name => ⟨rfl, id⟩) rfl
  | derive source context | create handler made | add source handler | remove source handler =>
    apply other fun name => ⟨rfl, id⟩
    rw [step]
    (repeat' split) <;> rfl

variable {after : String → Option Level}

theorem Relevels.of_given (h : s.Relevels after operation)
    (hg : operation.given? name = some level)
    (hs : s.level? name ≠ none ∨ operation.Creates name) : after name = some level := by
  cases h with
  | get terminal h =>
    rw [Operation.given?] at hg
    split at hg
    · next hn => rw [h, if_pos hn, hg, Option.getD_some]
    · cases hg
  | configure depth terminal format colors hp h =>
    rw [Operation.given?, hp] at hg
    obtain rfl := Option.some.inj hg
    rw [h]
    split
    · rfl
    · next hn =>
      obtain ⟨old, ho⟩ := Option.ne_none_iff_exists'.mp (hs.resolve_right fun hc => hn hc.1)
      rw [ho]
      rfl
  | other hn => cases (hn name).1.symm.trans hg

theorem Relevels.of_some (h : s.Relevels after operation) (hg : operation.given? name = none)
    (hs : s.level? name = some level) : after name = some level := by
  cases h with
  | get terminal h =>
    rw [Operation.given?] at hg
    rw [h]
    split
    · next hn =>
      rw [if_pos hn] at hg
      rw [hg, hs]
      rfl
    · split
      · next hn =>
        subst hn
        rw [rootLevel, Registry.rootLevel, ← level?, hs]
        rfl
      · exact hs
  | configure depth terminal format colors hp =>
    rw [Operation.given?, hp] at hg
    cases hg
  | other hn h => rw [h, hs]

theorem Relevels.of_none (h : s.Relevels after operation) (hs : s.level? name = none)
    (hc : ¬ operation.Creates name) : after name = none := by
  cases h with
  | get terminal h =>
    rw [Operation.Creates, not_or] at hc
    rw [h, if_neg (Ne.symm hc.1), if_neg hc.2, hs]
  | configure depth terminal format colors hp h =>
    have hn : name ≠ rootName := fun hn => hc ⟨hn, _, hp⟩
    rw [h, if_neg hn, hs]
    rfl
  | other hn h => rw [h, hs]

theorem Relevels.root_of_none (h : s.Relevels after operation)
    (hg : operation.given? rootName = none) (hs : s.level? rootName = none)
    (hc : operation.Creates rootName) : after rootName = some .info := by
  have hr : s.rootLevel = .info := by
    rw [rootLevel, Registry.rootLevel, ← level?, hs]
    rfl
  cases h with
  | get terminal h =>
    rw [Operation.given?] at hg
    rw [h, hr, hs]
    split
    · next hn =>
      rw [if_pos hn] at hg
      rw [hg]
      rfl
    · rw [if_pos rfl]
  | configure depth terminal format colors hp =>
    rw [Operation.given?, hp] at hg
    cases hg
  | other hn => exact absurd hc (hn rootName).2

theorem Relevels.eq_root (h : s.Relevels after operation) (hn : name ≠ rootName)
    (hg : operation.given? name = none) (hs : s.level? name = none)
    (hc : operation.Creates name) : after name = after rootName := by
  cases h with
  | @get terminal asked given h =>
    have ha : asked = name := (hc.resolve_right hn).symm
    have hr : asked ≠ rootName := ha.trans_ne hn
    rw [Operation.given?, if_pos ha] at hg
    rw [h, h, if_pos ha, hg, hs, if_neg hr, if_pos rfl]
    rfl
  | configure depth terminal format colors hp => exact absurd hc.1 hn
  | other hn => exact absurd hc (hn name).2

theorem Relevels.ne_none_iff (h : s.Relevels after operation) :
    after name ≠ none ↔ s.level? name ≠ none ∨ operation.Creates name := by
  cases h with
  | @get terminal asked given h =>
    have hc : (Operation.get terminal asked given).Creates name ↔
        asked = name ∨ name = rootName := or_congr_left eq_comm
    rw [h, hc]
    split
    · next hn => simp [hn]
    · next hn =>
      split
      · next hr => simp [hr]
      · next hr => simp [hn, hr]
  | configure depth terminal format colors hp h =>
    rw [h, Operation.Creates, hp]
    split
    · next hn => simp [hn]
    · next hn => simp [hn]
  | other hn h => rw [h, or_iff_left (hn name).2]

/-! ### Runs -/

theorem relevels_run (operations : List Operation) (operation : Operation) :
    (run operations).Relevels (run (operations ++ [operation])).level? operation := by
  rw [run_concat]
  exact relevels_step ..

theorem level?_run_ne_none_iff (operations : List Operation) :
    (run operations).level? name ≠ none ↔ ∃ o ∈ operations, o.Creates name := by
  induction operations using List.reverseRecOn with
  | nil => simp [run, empty, level?, Registry.empty, Registry.levels, Entries.get?]
  | append_singleton operations operation ih =>
    rw [(relevels_run operations operation).ne_none_iff, ih]
    simp [or_and_right, exists_or]

theorem level?_run_eq_none_iff (operations : List Operation) :
    (run operations).level? name = none ↔ ∀ o ∈ operations, ¬ o.Creates name := by
  have h : ¬ (run operations).level? name ≠ none ↔ ¬ ∃ o ∈ operations, o.Creates name :=
    not_congr (level?_run_ne_none_iff operations)
  rw [not_not] at h
  rw [h]
  simp

/-- A level that is given no other stays. -/
theorem level?_run_append {front back : List Operation}
    (hs : (run front).level? name = some level) (hb : ∀ o ∈ back, o.given? name = none) :
    (run (front ++ back)).level? name = some level := by
  induction back using List.reverseRecOn with
  | nil => rwa [List.append_nil]
  | append_singleton back operation ih =>
    have hb' := List.forall_mem_append.mp hb
    rw [← List.append_assoc]
    exact (relevels_run ..).of_some (hb'.2 _ List.mem_cons_self) (ih hb'.1)

end Session

namespace HasLevel

open Session

variable {operations : List Operation} {operation : Operation} {name : String} {level : Level}

theorem concat (h : HasLevel operations name level) (hg : operation.given? name = none) :
    HasLevel (operations ++ [operation]) name level := by
  have hb {back : List Operation} (hb : ∀ o ∈ back, o.given? name = none) :
      ∀ o ∈ back ++ [operation], o.given? name = none := by
    rw [List.forall_mem_append, List.forall_mem_singleton]
    exact ⟨hb, hg⟩
  cases h with
  | given hc hl hn =>
    rw [List.append_assoc]
    exact .given hc hl (hb hn)
  | fresh hf hc hn =>
    rw [List.append_assoc]
    exact .fresh hf hc (hb hn)
  | inherited hr hf hc hn hl =>
    rw [List.append_assoc]
    exact .inherited hr hf hc (hb hn) hl

/-- The level behind one more operation. For other loggers than the root, what holds of the root is
taken for granted. -/
theorem of_level?_concat
    (ih : ∀ level, (run operations).level? name = some level → HasLevel operations name level)
    (hr : name ≠ rootName →
      ∀ level, (run (operations ++ [operation])).level? rootName = some level →
        HasLevel (operations ++ [operation]) rootName level)
    (h : (run (operations ++ [operation])).level? name = some level) :
    HasLevel (operations ++ [operation]) name level := by
  have hstep := relevels_run operations operation
  have hne : (run (operations ++ [operation])).level? name ≠ none := by simp [h]
  cases hg : operation.given? name with
  | some given =>
    obtain rfl := Option.some.inj (h.symm.trans (hstep.of_given hg (hstep.ne_none_iff.mp hne)))
    exact .given ((level?_run_ne_none_iff _).mp hne) hg nofun
  | none =>
    cases hs : (run operations).level? name with
    | some old =>
      obtain rfl := Option.some.inj (h.symm.trans (hstep.of_some hg hs))
      exact (ih level hs).concat hg
    | none =>
      have hc : operation.Creates name := by
        by_contra hc
        exact hne (hstep.of_none hs hc)
      have hf := (level?_run_eq_none_iff operations).mp hs
      have hn : ∀ o ∈ [operation], o.given? name = none := List.forall_mem_singleton.mpr hg
      by_cases hroot : name = rootName
      · subst hroot
        obtain rfl := Option.some.inj (h.symm.trans (hstep.root_of_none hg hs hc))
        exact .fresh hf hc hn
      · have hl := (hstep.eq_root hroot hg hs hc).symm.trans h
        exact .inherited hroot hf hc hn (hr hroot level hl)

theorem of_level? (h : (run operations).level? name = some level) :
    HasLevel operations name level := by
  -- The root comes first: the level that others inherit is that of the root behind the same list.
  have root (operations : List Operation) : ∀ level,
      (run operations).level? rootName = some level → HasLevel operations rootName level := by
    induction operations using List.reverseRecOn with
    | nil => nofun
    | append_singleton operations operation ih =>
      intro level h
      exact of_level?_concat ih (fun hn => absurd rfl hn) h
  induction operations using List.reverseRecOn generalizing level with
  | nil => cases h
  | append_singleton operations operation ih =>
    exact of_level?_concat (fun level h => ih h) (fun _ => root _) h

theorem level? (h : HasLevel operations name level) :
    (run operations).level? name = some level := by
  induction h with
  | @given front back operation name level hc hg hb =>
    have hs : (run front).level? name ≠ none ∨ operation.Creates name := by
      rw [← (relevels_run front operation).ne_none_iff, level?_run_ne_none_iff]
      exact hc
    have hl := (relevels_run front operation).of_given hg hs
    rw [List.append_cons]
    exact level?_run_append hl hb
  | @fresh front back operation hf hc hb =>
    have hs := (level?_run_eq_none_iff front).mpr hf
    obtain ⟨hg, hb⟩ := List.forall_mem_cons.mp hb
    have hl := (relevels_run front operation).root_of_none hg hs hc
    rw [List.append_cons]
    exact level?_run_append hl hb
  | @inherited front back operation name level hn hf hc hb _ ih =>
    have hs := (level?_run_eq_none_iff front).mpr hf
    obtain ⟨hg, hb⟩ := List.forall_mem_cons.mp hb
    have hl := ((relevels_run front operation).eq_root hn hg hs hc).trans ih
    rw [List.append_cons]
    exact level?_run_append hl hb

end HasLevel

/-- The levels of the named loggers are those that the operations gave them. -/
theorem level?_run_iff {operations : List Operation} {name : String} {level : Level} :
    (Session.run operations).level? name = some level ↔ HasLevel operations name level :=
  ⟨HasLevel.of_level?, HasLevel.level?⟩

end SceneMarkup.Log
