import SceneMarkup.Log.Registry
import SceneMarkup.Proofs.Entries

/-! # Shared handlers

What is done to loggers changes the handlers on a list, but never which list a logger has. So all
loggers of a registry, and all that are derived from them, have the list of the root.
-/

namespace SceneMarkup.Log

/-- An event that is logged. -/
structure Event where
  time : Moment
  level : Level
  message : String
  context : Entries Value
  failure : Option Failure

/-- A logger of the registry, by its name, or a logger that was derived, by its number. -/
inductive Source where
  | named (name : String)
  | derived (number : Nat)
  deriving DecidableEq, Repr

/-- What is done to loggers. -/
inductive Operation where
  | get (terminal : Bool) (name : String) (level : Option Level)
  | derive (source : Source) (context : Entries Value)
  | create (handler : String) (made : Handler)
  | add (source : Source) (handler : String)
  | remove (source : Source) (handler : String)
  | configure (depth : Nat) (terminal : Bool) (level format : Value) (colors : Bool)
  | log (source : Source) (event : Event)

/-- A registry, and the loggers that were derived, in the order in which they came. -/
structure Session where
  registry : Registry
  derived : List Logger

namespace Session

def empty : Session := ⟨.empty, []⟩

def find? (s : Session) : Source → Option Logger
  | .named name => s.registry.loggers.get? name
  | .derived number => s.derived[number]?

def root? (s : Session) : Option Logger := s.registry.root?

def atDesk (s : Session) (desk : Desk) : Session := { s with registry := { s.registry with desk } }

/-- The session behind an operation. What fails changes nothing. -/
def step (s : Session) : Operation → Session
  | .get terminal name level => { s with registry := s.registry.getLogger terminal name level }
  | .derive source context =>
      match s.find? source with
      | some l => match l.derive context with
        | .ok l => { s with derived := s.derived ++ [l] }
        | .error _ => s
      | none => s
  | .create handler made =>
      let desk := s.registry.desk
      if desk.handlers.has handler then s
      else s.atDesk { desk with handlers := desk.handlers.put handler made }
  | .add source handler =>
      match s.find? source with
      | some l =>
          if s.registry.desk.handlers.has handler then
            s.atDesk (s.registry.desk.addHandler l handler)
          else s
      | none => s
  | .remove source handler =>
      match s.find? source with
      | some l => match s.registry.desk.removeHandler l handler with
        | .ok desk => s.atDesk desk
        | .error _ => s
      | none => s
  | .configure depth terminal level format colors =>
      match s.registry.configure depth terminal level format colors with
      | .ok registry => { s with registry }
      | .error _ => s
  | .log _ _ => s

/-- The session behind operations. -/
def run (operations : List Operation) : Session := operations.foldl step empty

theorem run_concat (operations : List Operation) (operation : Operation) :
    run (operations ++ [operation]) = (run operations).step operation := by
  simp [run]

def current (s : Session) : List String :=
  match s.root? with
  | some root => s.registry.desk.listOf root
  | none => []

end Session

/-! ### Desks -/

namespace Desk

variable {d : Desk} {l : Logger} {name : String} {names : List String}

/-- Every name on a list is the name of a handler. -/
def Known (d : Desk) : Prop := ∀ names ∈ d.lists, ∀ name ∈ names, d.handlers.has name

theorem has_put {handlers : Entries Handler} {made : Handler} (handler : String) :
    (handlers.put handler made).has name ↔ handler = name ∨ handlers.has name := by
  rw [Entries.has_iff, Entries.has_iff, Entries.mem_keys_put, or_comm, eq_comm]

theorem Known.put (h : d.Known) (handler : String) (made : Handler) :
    Known { d with handlers := d.handlers.put handler made } := by
  intro names hn name hm
  exact (has_put handler).mpr (.inr (h names hn name hm))

theorem Known.addList (h : d.Known) (hn : ∀ name ∈ names, d.handlers.has name) :
    (d.addList names).1.Known := by
  intro names' hm
  rcases List.mem_append.mp hm with hm | hm
  · exact h names' hm
  · obtain rfl := List.mem_singleton.mp hm
    exact hn

theorem Known.setList (h : d.Known) (l : Logger) (hn : ∀ name ∈ names, d.handlers.has name) :
    (d.setList l names).Known := by
  intro names' hm
  rcases List.mem_or_eq_of_mem_set hm with hm | rfl
  · exact h names' hm
  · exact hn

theorem Known.listOf (h : d.Known) (l : Logger) : ∀ name ∈ d.listOf l, d.handlers.has name := by
  intro name hn
  rw [Desk.listOf, List.getD_eq_getElem?_getD] at hn
  cases hl : d.lists[l.list]? with
  | none =>
    rw [hl] at hn
    cases hn
  | some names =>
    rw [hl] at hn
    exact h names (List.mem_of_getElem? hl) name hn

end Desk

/-! ### Registries -/

namespace Registry

variable {r r' : Registry} {terminal : Bool} {name : String} {l root : Logger}

/-- A logger that has the list of the root. -/
def Seats (r : Registry) (l : Logger) : Prop := ∃ root, r.root? = some root ∧ l.list = root.list

/-- Every logger of a registry, and every one that is held elsewhere, has the list of the root. -/
structure Shared (r : Registry) (held : List Logger) : Prop where
  seated : ∀ root, r.root? = some root → root.list < r.desk.lists.length
  known : r.desk.Known
  named : ∀ name l, r.loggers.get? name = some l → l.name = name ∧ l.context = [] ∧ r.Seats l
  held : ∀ l ∈ held, r.Seats l

variable {held : List Logger}

theorem shared_empty : empty.Shared [] where
  seated := nofun
  known := nofun
  named := nofun
  held := nofun

theorem Seats.trans (h : r.Seats l) (hr : ∀ root, r.root? = some root → r'.Seats root) :
    r'.Seats l := by
  obtain ⟨root, hroot, hl⟩ := h
  obtain ⟨root', hroot', hl'⟩ := hr root hroot
  exact ⟨root', hroot', hl.trans hl'⟩

theorem withRoot_of_some (h : r.root? = some root) : r.withRoot terminal = (root, r) := by
  rw [withRoot, h]

theorem root?_withRoot (r : Registry) (terminal : Bool) :
    (r.withRoot terminal).2.root? = some (r.withRoot terminal).1 := by
  rw [withRoot]
  split
  · next h => exact h
  · exact (Entries.get?_put ..).trans (if_pos rfl)

/-- Without the root there are no loggers at all. -/
theorem Shared.absent (h : r.Shared held) (hr : r.root? = none) :
    (∀ name, r.loggers.get? name = none) ∧ held = [] := by
  constructor
  · intro name
    cases hl : r.loggers.get? name with
    | none => rfl
    | some l =>
      obtain ⟨-, -, root, hr', -⟩ := h.named name l hl
      cases hr.symm.trans hr'
  · cases held with
    | nil => rfl
    | cons l held =>
      obtain ⟨root, hr', -⟩ := h.held l List.mem_cons_self
      cases hr.symm.trans hr'

theorem Shared.atDesk (h : r.Shared held) {desk : Desk}
    (hl : desk.lists.length = r.desk.lists.length) (hk : desk.Known) :
    Shared { r with desk } held where
  seated := by
    intro root hr
    rw [hl]
    exact h.seated root hr
  known := hk
  named := h.named
  held := h.held

theorem Shared.put (h : r.Shared held) (hl : r.Seats l) (hn : l.name = name)
    (hc : l.context = []) : Shared { r with loggers := r.loggers.put name l } held := by
  let r' : Registry := { r with loggers := r.loggers.put name l }
  have hg (n : String) : r'.loggers.get? n = if name = n then some l else r.loggers.get? n :=
    Entries.get?_put ..
  have hr : ∀ root, r.root? = some root → r'.Seats root := by
    intro root hr
    obtain ⟨root', hr', hl'⟩ := hl
    obtain rfl := Option.some.inj (hr.symm.trans hr')
    by_cases hk : name = rootName
    · exact ⟨l, (hg rootName).trans (if_pos hk), hl'.symm⟩
    · exact ⟨root, ((hg rootName).trans (if_neg hk)).trans hr, rfl⟩
  constructor
  · intro root' hr'
    obtain ⟨root, hroot, hl⟩ := hl
    obtain ⟨root'', hr'', hl''⟩ := hr root hroot
    obtain rfl := Option.some.inj (hr'.symm.trans hr'')
    rw [← hl'']
    exact h.seated root hroot
  · exact h.known
  · intro n l' hl'
    rw [hg] at hl'
    split at hl'
    · next hk =>
      obtain rfl := Option.some.inj hl'
      exact ⟨hn.trans hk, hc, hl.trans hr⟩
    · obtain ⟨hn', hc', hs⟩ := h.named n l' hl'
      exact ⟨hn', hc', hs.trans hr⟩
  · intro l' hm
    exact (h.held l' hm).trans hr

theorem get?_setLevels (r : Registry) (level : Level) (name : String) :
    (r.setLevels level).loggers.get? name =
      (r.loggers.get? name).map fun l => l.withLevel level := by
  rw [setLevels, ← Entries.get?_map]

theorem Shared.setLevels (h : r.Shared held) (level : Level) : (r.setLevels level).Shared held := by
  have hg := get?_setLevels r level
  have hr : ∀ root, r.root? = some root → (r.setLevels level).Seats root := by
    intro root hr
    rw [root?] at hr
    refine ⟨root.withLevel level, ?_, rfl⟩
    rw [root?, hg, hr]
    rfl
  constructor
  · intro root hr'
    rw [root?, hg] at hr'
    obtain ⟨root, hroot, rfl⟩ := Option.map_eq_some_iff.mp hr'
    exact h.seated root hroot
  · exact h.known
  · intro n l' hl'
    rw [hg] at hl'
    obtain ⟨l, hl, rfl⟩ := Option.map_eq_some_iff.mp hl'
    obtain ⟨hn, hc, hs⟩ := h.named n l hl
    exact ⟨hn, hc, hs.trans hr⟩
  · intro l hm
    exact (h.held l hm).trans hr

theorem Shared.withRoot (h : r.Shared held) (terminal : Bool) :
    (r.withRoot terminal).2.Shared held := by
  cases hr : r.root? with
  | some root => rwa [withRoot_of_some hr]
  | none =>
    let made : Handler := ⟨.debug, .text (.standard terminal)⟩
    let desk := (r.desk.addNew made).1
    let root : Logger := ⟨rootName, .info, [], r.desk.lists.length⟩
    have hw : r.withRoot terminal =
        (root, ⟨(desk.addList [r.desk.freshName]).1, r.loggers.put rootName root⟩) := by
      rw [Registry.withRoot, hr]
      rfl
    have hg : (r.loggers.put rootName root).get? rootName = some root := by
      rw [Entries.get?_put, if_pos rfl]
    obtain ⟨ha, rfl⟩ := h.absent hr
    rw [hw]
    constructor
    · intro root' hr'
      obtain rfl := Option.some.inj (hg.symm.trans hr')
      simp [Desk.addList, desk, Desk.addNew, root]
    · apply Desk.Known.addList (h.known.put _ made)
      intro name hn
      obtain rfl := List.mem_singleton.mp hn
      exact (Desk.has_put _).mpr (.inl rfl)
    · intro name l hl
      rw [Entries.get?_put, ha] at hl
      split at hl
      · next hn =>
        obtain rfl := Option.some.inj hl
        exact ⟨hn, rfl, root, hg, rfl⟩
      · cases hl
    · nofun

theorem Shared.getLogger (h : r.Shared held) (terminal : Bool) (name : String)
    (level : Option Level) : (r.getLogger terminal name level).Shared held := by
  have hw := h.withRoot terminal
  have hr := root?_withRoot r terminal
  rw [Registry.getLogger]
  dsimp only
  split
  · exact hw.put ⟨_, hr, rfl⟩ rfl rfl
  · next l level hl =>
    obtain ⟨hn, hc, hs⟩ := hw.named name l hl
    exact hw.put hs hn hc
  · exact hw

theorem Shared.reset (h : r.Shared held) (terminal : Bool) (made : Handler) :
    (r.reset terminal made).Shared held := by
  have hw := h.withRoot terminal
  rw [Registry.reset]
  generalize r.withRoot terminal = w at hw ⊢
  obtain ⟨root, r⟩ := w
  apply Shared.setLevels
  apply hw.atDesk
  · simp [Desk.setList]
  · apply (hw.known.put _ made).setList
    intro name hn
    obtain rfl := List.mem_singleton.mp hn
    exact (Desk.has_put _).mpr (.inl rfl)

end Registry

/-! ### Sessions -/

namespace Session

variable {s : Session} {source : Source} {l : Logger}

def Shared (s : Session) : Prop := s.registry.Shared s.derived

theorem Shared.seats (h : s.Shared) (hl : s.find? source = some l) : s.registry.Seats l := by
  cases source with
  | named name => exact (h.named name l hl).2.2
  | derived number => exact h.held l (List.mem_of_getElem? hl)

theorem Shared.setList (h : s.Shared) (l : Logger) {names : List String}
    (hn : ∀ name ∈ names, s.registry.desk.handlers.has name) :
    (s.atDesk (s.registry.desk.setList l names)).Shared := by
  apply Registry.Shared.atDesk h
  · simp [Desk.setList]
  · exact h.known.setList l hn

/-- No operation changes who has which list. -/
theorem Shared.step (h : s.Shared) (operation : Operation) : (s.step operation).Shared := by
  cases operation with
  | get terminal name level => exact h.getLogger terminal name level
  | derive source context =>
    rw [Session.step]
    split
    · next l hl =>
      split
      · next l' hd =>
        refine ⟨h.seated, h.known, h.named, ?_⟩
        intro l'' hm
        rcases List.mem_append.mp hm with hm | hm
        · exact h.held l'' hm
        · obtain rfl := List.mem_singleton.mp hm
          rw [Logger.derive] at hd
          split at hd
          · cases hd
          · obtain rfl := Except.ok.inj hd
            have hs : s.registry.Seats l := h.seats hl
            exact hs
      · exact h
    · exact h
  | create handler made =>
    rw [Session.step]
    split
    · exact h
    · exact h.atDesk rfl (h.known.put handler made)
  | add source handler =>
    rw [Session.step]
    split
    · next l hl =>
      split
      · next hh =>
        apply h.setList
        intro name hn
        rcases List.mem_append.mp hn with hn | hn
        · exact h.known.listOf l name hn
        · obtain rfl := List.mem_singleton.mp hn
          exact hh
      · exact h
    · exact h
  | remove source handler =>
    rw [Session.step]
    split
    · next l hl =>
      split
      · next desk hd =>
        rw [Desk.removeHandler] at hd
        split at hd
        · obtain rfl := Except.ok.inj hd
          apply h.setList
          intro name hn
          exact h.known.listOf l name (List.mem_of_mem_erase hn)
        · cases hd
      · exact h
    · exact h
  | configure depth terminal level format colors =>
    rw [Session.step, Registry.configure]
    cases Level.parse level with
    | error unknown => exact h
    | ok level => exact h.reset terminal ⟨level, _⟩
  | log source event => exact h

theorem shared_run (operations : List Operation) : (run operations).Shared := by
  induction operations using List.reverseRecOn with
  | nil => exact Registry.shared_empty
  | append_singleton operations operation ih =>
    rw [run_concat]
    exact ih.step operation

/-- Every logger has what stands on the list of the root. -/
theorem Shared.listOf_eq (h : s.Shared) (hl : s.find? source = some l) :
    s.registry.desk.listOf l = s.current := by
  obtain ⟨root, hr, he⟩ := h.seats hl
  rw [current, root?, hr]
  dsimp only
  rw [Desk.listOf, Desk.listOf, he]

/-! ### What stands on the list -/

variable {handler : String}

end Session

end SceneMarkup.Log
