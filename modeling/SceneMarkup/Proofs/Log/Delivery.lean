import SceneMarkup.Proofs.Log.Levels

/-! # One configuration

Every logger, however it came about, writes to the handlers that stand on the list of the root when
it writes. A derived logger keeps the level of its parent, and its context is what it and those
before it were given, in order.
-/

namespace SceneMarkup.Log

/-- How a logger came about: the name and the level it has, and the context that was given to it
and to those it was derived from, oldest first. -/
inductive Origin : List Operation → Source → String → Level → List (Entries Value) → Prop where

  | named {operations : List Operation} {name : String} {level : Level} :
      HasLevel operations name level → Origin operations (.named name) name level []

  /-- A derived logger is as its parent was then. -/
  | derived {front : List Operation} {source : Source} {name : String} {level : Level}
      {contexts : List (Entries Value)} {context : Entries Value} (back : List Operation) :
      Origin front source name level contexts → context.has Logger.ownName = false →
      Origin (front ++ .derive source context :: back)
        (.derived (Session.run front).derived.length) name level (contexts ++ [context])

/-- A context that is put together from several: the later ones go over the earlier. -/
def merged (contexts : List (Entries Value)) : Entries Value := contexts.foldl Entries.update []

namespace Session

variable {s : Session} {operations : List Operation} {operation : Operation} {source : Source}
  {l : Logger}

theorem derived_step (s : Session) (operation : Operation) :
    (s.step operation).derived = s.derived ∨
      ∃ source context parent, operation = .derive source context ∧
        s.find? source = some parent ∧ context.has Logger.ownName = false ∧
        (s.step operation).derived = s.derived ++ [parent.withContext context] := by
  cases operation with
  | derive source context =>
    cases hp : s.find? source with
    | none =>
      left
      rw [step, hp]
    | some parent =>
      by_cases hc : context.has Logger.ownName
      · left
        simp [step, hp, Logger.derive, hc]
      · right
        refine ⟨source, context, parent, rfl, hp, Bool.eq_false_iff.mpr hc, ?_⟩
        simp [step, hp, Logger.derive, hc]
  | get terminal name level => exact .inl rfl
  | log source event => exact .inl rfl
  | create handler made | add source handler | remove source handler
  | configure depth terminal level format colors =>
    left
    rw [step]
    (repeat' split) <;> rfl

theorem derived_step_of_derive {context : Entries Value} {parent : Logger}
    (hp : s.find? source = some parent) (hc : context.has Logger.ownName = false) :
    (s.step (.derive source context)).derived = s.derived ++ [parent.withContext context] := by
  simp [step, hp, Logger.derive, hc]

/-- Loggers that were derived stay as they are. -/
theorem derived_run_prefix (front back : List Operation) :
    (run front).derived <+: (run (front ++ back)).derived := by
  induction back using List.reverseRecOn with
  | nil => simp
  | append_singleton back operation ih =>
    rw [← List.append_assoc, run_concat]
    rcases derived_step (run (front ++ back)) operation with he | ⟨_, _, _, _, _, _, he⟩
    · rwa [he]
    · rw [he]
      exact ih.trans (List.prefix_append ..)

theorem level?_of_find? {name : String} (h : s.find? (.named name) = some l) :
    s.level? name = some l.level := by
  have hl : s.registry.loggers.get? name = some l := h
  rw [level?, Registry.get?_levels, hl]
  rfl

end Session

namespace Origin

open Session

variable {operations : List Operation} {operation : Operation} {source : Source} {name : String}
  {level : Level} {contexts : List (Entries Value)} {l : Logger}

/-- Nothing that happens later changes how a derived logger came about. -/
theorem concat_derived {number : Nat} (h : Origin operations (.derived number) name level contexts)
    (operation : Operation) :
    Origin (operations ++ [operation]) (.derived number) name level contexts := by
  cases h with
  | derived back hp hc =>
    rw [List.append_assoc]
    exact .derived (back ++ [operation]) hp hc

theorem of_named (h : (run operations).find? (.named name) = some l) :
    Origin operations (.named name) l.name l.level [] ∧ l.context = merged [] := by
  obtain ⟨hn, hc, -⟩ := (shared_run operations).named name l h
  rw [hn]
  exact ⟨.named (level?_run_iff.mp (level?_of_find? h)), hc⟩

/-- Every logger came about somehow, and has the context that it was given on the way. -/
theorem exists_of_find? (h : (run operations).find? source = some l) :
    ∃ contexts, Origin operations source l.name l.level contexts ∧ l.context = merged contexts := by
  induction operations using List.reverseRecOn generalizing source l with
  | nil => cases source <;> cases h
  | append_singleton operations operation ih =>
    cases source with
    | named name => exact ⟨[], of_named h⟩
    | derived number =>
      have kept (hk : (run operations).find? (.derived number) = some l) :
          ∃ contexts, Origin (operations ++ [operation]) (.derived number) l.name l.level contexts ∧
            l.context = merged contexts := by
        obtain ⟨contexts, ho, hc⟩ := ih hk
        exact ⟨contexts, ho.concat_derived operation, hc⟩
      rw [run_concat] at h
      rcases derived_step (run operations) operation with
        he | ⟨source, context, parent, rfl, hp, hown, he⟩
      · exact kept (by rw [← h, find?, find?, he])
      · -- A logger was derived just now; the number is that of an older one, its own, or free.
        rw [find?, he] at h
        rcases Nat.lt_trichotomy number (run operations).derived.length with hn | rfl | hn
        · rw [List.getElem?_append_left hn] at h
          exact kept h
        · rw [List.getElem?_concat_length] at h
          obtain rfl := Option.some.inj h
          obtain ⟨contexts, ho, hc⟩ := ih hp
          refine ⟨contexts ++ [context], .derived [] ho hown, ?_⟩
          rw [Logger.withContext, hc, merged, merged, List.foldl_concat]
        · rw [List.getElem?_eq_none (by simp; omega)] at h
          cases h

theorem find? (h : Origin operations source name level contexts) :
    ∃ l, (run operations).find? source = some l ∧ l.name = name ∧ l.level = level ∧
      l.context = merged contexts := by
  induction h with
  | @named operations name level h =>
    have hl := level?_run_iff.mpr h
    rw [level?, Registry.get?_levels] at hl
    obtain ⟨l, hf, rfl⟩ := Option.map_eq_some_iff.mp hl
    obtain ⟨hn, hc, -⟩ := (shared_run operations).named name l hf
    exact ⟨l, hf, hn, rfl, hc⟩
  | @derived front source name level contexts context back _ hown ih =>
    obtain ⟨parent, hp, rfl, rfl, hc⟩ := ih
    refine ⟨parent.withContext context, ?_, rfl, rfl, ?_⟩
    · have hd := derived_step_of_derive hp hown
      rw [← run_concat] at hd
      have hpre := derived_run_prefix (front ++ [.derive source context]) back
      rw [hd, ← List.append_cons] at hpre
      obtain ⟨more, hm⟩ := hpre
      rw [Session.find?, ← hm, List.append_assoc, List.getElem?_append_right (Nat.le_refl _)]
      simp
    · rw [Logger.withContext, hc, merged, merged, List.foldl_concat]

end Origin

/-! ### Emissions -/

/-- What the handlers on a list make of a record, in the order of the list. A handler that takes the
record makes one thing of it for each time it stands there; one that fails stops no other. -/
inductive Emitted (d : Desk) (time : Moment) (r : Record) :
    List String → List (String × Emission) → Prop where

  | nil : Emitted d time r [] []

  | taken {name : String} {h : Handler} {emission : Emission} {names : List String}
      {emissions : List (String × Emission)} :
      d.handlers.get? name = some h → h.level ≤ r.level → h.outlet.write? time r = some emission →
      Emitted d time r names emissions →
      Emitted d time r (name :: names) ((name, emission) :: emissions)

  | passed {name : String} {h : Handler} {names : List String}
      {emissions : List (String × Emission)} :
      d.handlers.get? name = some h → ¬ h.level ≤ r.level ∨ h.outlet.write? time r = none →
      Emitted d time r names emissions → Emitted d time r (name :: names) emissions

variable {d : Desk} {l : Logger} {time : Moment} {r : Record} {names : List String}
  {emissions : List (String × Emission)}

theorem Desk.emission?_eq {name : String} {h : Handler} (hh : d.handlers.get? name = some h) :
    d.emission? time r name = (h.emit time r).map (name, ·) := by
  rw [emission?, hh]
  cases he : h.emit time r <;> simp [he]

theorem emitted_filterMap (hn : ∀ name ∈ names, d.handlers.has name) :
    Emitted d time r names (names.filterMap (d.emission? time r)) := by
  induction names with
  | nil => exact .nil
  | cons name names ih =>
    obtain ⟨hh, hn⟩ := List.forall_mem_cons.mp hn
    obtain ⟨h, hh⟩ := Option.isSome_iff_exists.mp hh
    rw [List.filterMap_cons, Desk.emission?_eq hh, Handler.emit]
    by_cases hl : h.level ≤ r.level
    · rw [if_pos hl]
      cases hw : h.outlet.write? time r with
      | some emission => exact .taken hh hl hw (ih hn)
      | none => exact .passed hh (.inr hw) (ih hn)
    · rw [if_neg hl]
      exact .passed hh (.inl hl) (ih hn)

theorem Desk.Known.emitted (h : d.Known) (l : Logger) (time : Moment) (r : Record) :
    Emitted d time r (d.listOf l) (d.deliver l time r) :=
  emitted_filterMap (h.listOf l)

/-- A handler makes one thing of a record for each time that it stands on the list. -/
theorem Emitted.count_eq (h : Emitted d time r names emissions) {name : String} {made : Handler}
    (hm : d.handlers.get? name = some made) (hl : made.level ≤ r.level)
    (hw : made.outlet.write? time r ≠ none) :
    (emissions.map Prod.fst).count name = names.count name := by
  induction h with
  | nil => rfl
  | @taken other h emission names emissions hh _ _ _ ih =>
    rw [List.map_cons, List.count_cons, List.count_cons, ih]
  | @passed other h names emissions hh hp _ ih =>
    have hne : other ≠ name := by
      rintro rfl
      obtain rfl := Option.some.inj (hm.symm.trans hh)
      rcases hp with hp | hp
      · exact hp hl
      · exact hw hp
    rw [ih, List.count_cons_of_ne hne]

/-! ### Events -/

/-- The event's own context leaves the names alone that are given otherwise. -/
def Event.Plain (e : Event) : Prop :=
  ∀ name ∈ Entries.keys e.context, name ∉ Logger.takenNames ∧ name ≠ Logger.causeName

/-- The record of an event for a logger with a name and contexts that were given to it. -/
def Event.record (e : Event) (name : String) (contexts : List (Entries Value)) : Record where
  level := e.level
  logger := name
  message := e.message
  context := merged (contexts ++ [e.context])
  cause := e.failure.map .failure

theorem Event.Plain.record {e : Event} (h : e.Plain) {contexts : List (Entries Value)}
    (hc : l.context = merged contexts) :
    l.record e.level e.message e.context e.failure = .ok (e.record l.name contexts) := by
  have ht : (e.context.any fun c => Logger.takenNames.contains c.1) = false := by
    rw [List.any_eq_false]
    intro c hm
    rw [List.contains_iff_mem]
    exact (h c.1 (List.mem_map_of_mem hm)).1
  have hn : Logger.causeName ∉ Entries.keys e.context := fun hm => (h _ hm).2 rfl
  have hi : Logger.causeIn e.context = none := by
    rw [Logger.causeIn, Entries.get?_eq_none_iff.mpr hn]
  rw [Logger.record, ht, if_neg Bool.false_ne_true, Entries.erase_of_not_mem hn, hi, Option.or_none,
    hc, Event.record, merged, merged, List.foldl_concat]

/-- What is made of an event that is logged with a logger. -/
def Session.log (s : Session) (l : Logger) (e : Event) : Except Misuse (List (String × Emission)) :=
  l.log s.registry.desk e.time e.level e.message e.context e.failure

/-- What comes of an event that is logged with a logger to which contexts were given. -/
structure Logged (s : Session) (l : Logger) (contexts : List (Entries Value)) (e : Event)
    (emissions : List (String × Emission)) : Prop where
  /-- There is a record exactly when the logger takes the level of the event. -/
  recorded : l.recordIfTaken e.level e.message e.context e.failure =
    .ok (if l.level ≤ e.level then some (e.record l.name contexts) else none)
  result : s.log l e = .ok emissions
  silent : ¬ l.level ≤ e.level → emissions = []
  emitted : l.level ≤ e.level →
    Emitted s.registry.desk e.time (e.record l.name contexts) s.current emissions
  /-- A handler that takes the record and does not fail makes one thing of it for each time it
  stands on the list. -/
  counted : l.level ≤ e.level → ∀ name h, s.registry.desk.handlers.get? name = some h →
    h.level ≤ e.level → h.outlet.write? e.time (e.record l.name contexts) ≠ none →
    (emissions.map Prod.fst).count name = s.current.count name

theorem Session.Shared.exists_logged {s : Session} {source : Source} (h : s.Shared)
    (hl : s.find? source = some l) {contexts : List (Entries Value)}
    (hc : l.context = merged contexts) {e : Event} (hp : e.Plain) :
    ∃ emissions, Logged s l contexts e emissions := by
  have hr : l.recordIfTaken e.level e.message e.context e.failure =
      .ok (if l.level ≤ e.level then some (e.record l.name contexts) else none) := by
    rw [Logger.recordIfTaken, hp.record hc]
    rfl
  by_cases hv : l.level ≤ e.level
  · let record := e.record l.name contexts
    have he : Emitted s.registry.desk e.time record s.current
        (s.registry.desk.deliver l e.time record) := by
      rw [← h.listOf_eq hl]
      exact h.known.emitted l e.time record
    refine ⟨_, hr, ?_, fun hn => absurd hv hn, fun _ => he, ?_⟩
    · rw [log, Logger.log, hr, if_pos hv]
      rfl
    · intro _ name made hm hlevel hw
      exact he.count_eq hm hlevel hw
  · refine ⟨[], hr, ?_, fun _ => rfl, fun hn => absurd hn hv, fun hn => absurd hn hv⟩
    rw [log, Logger.log, hr, if_neg hv]
    rfl

open Registry (rootName)
open Session (run)

/-- Whatever was done to loggers: each named one has the level that it was given last, each derived
one is as its parent was, and all of them write to the handlers that stand on the list of the root
now. An event leads to a record exactly when the logger takes its level; the record has all context
that the logger was given, in order, and then its own, and every handler that takes it makes one
thing of it for each time it stands on the list, whatever the others do. -/
theorem one_configuration (operations : List Operation) :
    (∀ name level, (run operations).level? name = some level ↔ HasLevel operations name level) ∧
    (∀ source name level contexts, Origin operations source name level contexts →
      ∃ l, (run operations).find? source = some l ∧ l.name = name ∧ l.level = level ∧
        l.context = merged contexts) ∧
    ∀ source l, (run operations).find? source = some l →
      (∃ root, (run operations).root? = some root ∧ l.list = root.list) ∧
      ∃ contexts, Origin operations source l.name l.level contexts ∧
        l.context = merged contexts ∧
        ∀ event : Event, event.Plain →
          ∃ emissions, Logged (run operations) l contexts event emissions := by
  refine ⟨fun name level => level?_run_iff, ?_, ?_⟩
  · intro source name level contexts h
    exact h.find?
  · intro source l hl
    have hs := Session.shared_run operations
    obtain ⟨contexts, ho, hc⟩ := Origin.exists_of_find? hl
    refine ⟨hs.seats hl, contexts, ho, hc, ?_⟩
    intro event hp
    exact hs.exists_logged hl hc hp

/-- A logger that is derived, and a handler that is added to it, behind a configuration. -/
def tuned : List Operation :=
  [.configure 254 false (.integer 40) (.text "text") true, .get false "opal.bundler" (some .debug),
    .derive (.named "opal.bundler") [("path", .text "a.opal")], .create "memory" ⟨.debug, .memory⟩,
    .add (.derived 0) "memory"]

def started : Event :=
  ⟨⟨2024, 1, 15, 10, 30, 45, 0⟩, .info, "Build started", [("size", .integer 3)], none⟩

theorem plain_started : started.Plain := by
  intro name hn
  obtain rfl := List.mem_singleton.mp hn
  decide

def tunedLogger : Logger := ⟨"opal.bundler", .debug, [("path", .text "a.opal")], 0⟩

theorem one_configuration_tuned :
    (run tuned).find? (.derived 0) = some tunedLogger ∧ started.Plain ∧
      ∃ emissions, (run tuned).log tunedLogger started = .ok emissions ∧
        (emissions.map Prod.fst).count "memory" = 1 := by
  have hl : (run tuned).find? (.derived 0) = some tunedLogger := by
    with_unfolding_all rfl
  have hc : (run tuned).current = ["**", "memory"] := by
    with_unfolding_all rfl
  have hm : (run tuned).registry.desk.handlers.get? "memory" = some ⟨.debug, .memory⟩ := by
    with_unfolding_all rfl
  obtain ⟨-, -, h⟩ := one_configuration tuned
  obtain ⟨-, contexts, -, -, h⟩ := h _ _ hl
  obtain ⟨emissions, h⟩ := h started plain_started
  refine ⟨hl, plain_started, emissions, h.result, ?_⟩
  rw [h.counted (by decide) "memory" _ hm (by decide) nofun, hc]
  decide

/-- The same handler once more on the list. -/
def doubled : List Operation := tuned ++ [.add (.named rootName) "memory"]

/-- A handler that was added twice makes two things of one record. -/
theorem not_one_configuration_doubled :
    (run doubled).find? (.derived 0) = some tunedLogger ∧ tunedLogger.level ≤ started.level ∧
      started.Plain ∧
      (run doubled).registry.desk.handlers.get? "memory" = some ⟨.debug, .memory⟩ ∧
      ∃ emissions, (run doubled).log tunedLogger started = .ok emissions ∧
        (emissions.map Prod.fst).count "memory" = 2 := by
  let made : String × Emission :=
    ("memory", .kept (started.record "opal.bundler" [[("path", .text "a.opal")]]))
  have he : (run doubled).log tunedLogger started = .ok [made, made] := by
    with_unfolding_all rfl
  refine ⟨?_, by decide, plain_started, ?_, [made, made], he, ?_⟩
  · with_unfolding_all rfl
  · with_unfolding_all rfl
  · decide

end SceneMarkup.Log
