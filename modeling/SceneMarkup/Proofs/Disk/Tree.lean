import Mathlib.Data.List.Induction
import Mathlib.Tactic.SplitIfs
import SceneMarkup.Disk.Basic

/-! # Disks as trees

On a disk as an operating system keeps it, whatever lies somewhere lies in a directory. If there are
no links, a walk down from the root ends at what lies at the place, or nothing does, unless a name
is too long.
-/

namespace SceneMarkup.Disk

variable {d : Disk} {place q : Place} {names rest : List String} {name : String}

structure Legal (name : String) : Prop where
  ne_empty : name ≠ ""
  ne_dot : name ≠ "."
  ne_dots : name ≠ ".."
  slash : '/' ∉ name.toList
  null : '\x00' ∉ name.toList
  size : name.utf8ByteSize ≤ longestName

instance (name : String) : Decidable (Legal name) :=
  decidable_of_iff (name ≠ "" ∧ name ≠ "." ∧ name ≠ ".." ∧ '/' ∉ name.toList ∧
      '\x00' ∉ name.toList ∧ name.utf8ByteSize ≤ longestName)
    ⟨fun ⟨h₁, h₂, h₃, h₄, h₅, h₆⟩ => ⟨h₁, h₂, h₃, h₄, h₅, h₆⟩,
      fun h => ⟨h.ne_empty, h.ne_dot, h.ne_dots, h.slash, h.null, h.size⟩⟩

def Entry.isLink : Entry → Bool
  | link _ => true
  | _ => false

/-- The working directory is one, whatever lies somewhere has a legal name in a directory, and there
are no links. -/
structure WellFormed (d : Disk) : Prop where
  here : d.at? d.here = some .directory
  above : ∀ place name, d.at? (place ++ [name]) ≠ none →
    d.at? place = some .directory ∧ Legal name
  linkless : ∀ place entry, d.at? place = some entry → entry.isLink = false

theorem exists_of_entryIn {entries : List (List Place × Entry)} {entry : Entry}
    (h : entryIn entries place = some entry) : ∃ e ∈ entries, place ∈ e.1 ∧ e.2 = entry := by
  induction entries with
  | nil => cases h
  | cons e entries ih =>
    rw [entryIn] at h
    split at h
    · next hp => exact ⟨e, List.mem_cons_self, hp, Option.some.inj h⟩
    · obtain ⟨e', hm, he⟩ := ih h
      exact ⟨e', List.mem_cons_of_mem _ hm, he⟩

theorem WellFormed.of_entries (hh : d.at? d.here = some .directory)
    (he : ∀ e ∈ d.entries, e.2.isLink = false ∧ ∀ place ∈ e.1, ∀ name ∈ place.getLast?,
      d.at? place.dropLast = some .directory ∧ Legal name) : d.WellFormed := by
  refine ⟨hh, fun place name ha => ?_, fun place entry ha => ?_⟩
  · obtain ⟨entry, ha⟩ := Option.ne_none_iff_exists'.mp ha
    have hn : (place ++ [name]).isEmpty = false := by simp
    rw [at?, hn] at ha
    obtain ⟨e, hmem, hp, -⟩ := exists_of_entryIn ha
    have := (he e hmem).2 _ hp name (by simp)
    rwa [List.dropLast_concat] at this
  · rw [at?] at ha
    split at ha
    · rw [← Option.some.inj ha]
      rfl
    · obtain ⟨e, hmem, -, rfl⟩ := exists_of_entryIn ha
      exact (he e hmem).1

theorem WellFormed.legal_of_mem (hw : d.WellFormed) (h : d.at? place ≠ none) :
    ∀ name ∈ place, Legal name := by
  induction place using List.reverseRecOn with
  | nil => nofun
  | append_singleton place name ih =>
    obtain ⟨hd, hl⟩ := hw.above place name h
    intro other hm
    rcases List.mem_append.mp hm with hm | hm
    · exact ih (by simp [hd]) other hm
    · exact List.mem_singleton.mp hm ▸ hl

/-- Whatever is above something is a directory. -/
theorem WellFormed.directory_of_prefix (hw : d.WellFormed) (h : d.at? place ≠ none)
    (hp : q <+: place) (hne : q ≠ place) : d.at? q = some .directory := by
  induction place using List.reverseRecOn with
  | nil => exact absurd (List.prefix_nil.mp hp) hne
  | append_singleton place name ih =>
    have hd := (hw.above place name h).1
    rcases List.prefix_concat_iff.mp hp with rfl | hp
    · exact absurd rfl hne
    · by_cases hq : q = place
      · rwa [hq]
      · exact ih (by simp [hd]) hp hq

/-! ### Walks -/

/-- What lies at the end of a walk, if it leads anywhere. Only a name that is too long is a
fault. -/
def lookFrom (d : Disk) (place : Place) (names : List String) : Except Fault (Option Entry) :=
  match names.foldlM d.step place with
  | .ok place => .ok (d.at? place)
  | .error .nameTooLong => .error .nameTooLong
  | .error _ => .ok none

theorem WellFormed.walkWith_eq (hw : d.WellFormed)
    (follow : Place → List String → Except Fault Place) (last : Bool) (place : Place) (names : List String) :
    d.walkWith follow last place names = names.foldlM d.step place := by
  induction names generalizing place with
  | nil => rfl
  | cons name names ih =>
    rw [walkWith, List.foldlM_cons]
    cases d.step place name with
    | error f => rfl
    | ok next =>
      dsimp only
      split
      · next target ha => cases hw.linkless next _ ha
      · exact ih next

theorem WellFormed.trace_eq (hw : d.WellFormed) (last : Bool) (p : Path) :
    d.trace last p =
      if p.parts.any hasNull then .error .nullInName
      else if p.text.utf8ByteSize > longestPath then .error .nameTooLong
      else p.parts.foldlM d.step (d.start p) := by
  rw [trace, mostLinks, walk, hw.walkWith_eq]

theorem WellFormed.find?_eq (hw : d.WellFormed) (p : Path) :
    d.find? p =
      if p.parts.any hasNull then .ok none
      else if p.text.utf8ByteSize > longestPath then .error .nameTooLong
      else d.lookFrom (d.start p) p.parts := by
  rw [find?, locate, hw.trace_eq, lookFrom]
  split_ifs <;> rfl

theorem lookFrom_of_directory (h : d.at? place = some .directory) (hd : name ≠ "..")
    (hs : name.utf8ByteSize ≤ longestName) :
    d.lookFrom place (name :: names) = d.lookFrom (place ++ [name]) names := by
  have hstep : d.step place name = .ok (place ++ [name]) := by
    rw [step, h]
    exact (if_neg hd).trans (if_neg (Nat.not_lt.mpr hs))
  rw [lookFrom, List.foldlM_cons, hstep]
  rfl

theorem lookFrom_of_tooLong (h : d.at? place = some .directory) (hd : name ≠ "..")
    (hs : longestName < name.utf8ByteSize) :
    d.lookFrom place (name :: names) = .error .nameTooLong := by
  have hstep : d.step place name = .error .nameTooLong := by
    rw [step, h]
    exact (if_neg hd).trans (if_pos hs)
  rw [lookFrom, List.foldlM_cons, hstep]
  rfl

theorem lookFrom_of_not_directory (h : d.at? place ≠ some .directory) :
    d.lookFrom place (name :: names) = .ok none := by
  cases ha : d.at? place with
  | none =>
    rw [lookFrom, List.foldlM_cons, step, ha]
    rfl
  | some entry =>
    have hstep : d.step place name = .error .notDirectory := by
      rw [step, ha]
      cases entry with
      | directory => exact absurd ha h
      | _ => rfl
    rw [lookFrom, List.foldlM_cons, hstep]
    rfl

theorem lookFrom_of_none (h : d.at? place = none) : d.lookFrom place names = .ok none := by
  cases names with
  | nil => exact congrArg Except.ok h
  | cons name names => exact lookFrom_of_not_directory (by simp [h])

/-- A walk may be cut behind names that are not too long: where they lead nowhere, neither do
those that follow. -/
theorem WellFormed.lookFrom_append (hw : d.WellFormed)
    (hn : ∀ name ∈ names, name ≠ ".." ∧ name.utf8ByteSize ≤ longestName) :
    d.lookFrom place (names ++ rest) = d.lookFrom (place ++ names) rest := by
  induction names generalizing place with
  | nil => rw [List.nil_append, List.append_nil]
  | cons name names ih =>
    obtain ⟨⟨hd, hs⟩, hn⟩ := List.forall_mem_cons.mp hn
    by_cases ha : d.at? place = some .directory
    · rw [List.cons_append, lookFrom_of_directory ha hd hs, ih hn, List.append_assoc]
      rfl
    · have hnone : d.at? (place ++ name :: names) = none := by
        by_contra h
        exact ha (hw.directory_of_prefix h (List.prefix_append ..) (by simp))
      rw [List.cons_append, lookFrom_of_not_directory ha, lookFrom_of_none hnone]

theorem WellFormed.lookFrom_eq (hw : d.WellFormed)
    (hn : ∀ name ∈ names, name ≠ ".." ∧ name.utf8ByteSize ≤ longestName) :
    d.lookFrom place names = .ok (d.at? (place ++ names)) := by
  have h : d.lookFrom place (names ++ []) = d.lookFrom (place ++ names) [] := hw.lookFrom_append hn
  rwa [List.append_nil] at h

theorem hasNull_eq_false (h : Legal name) : hasNull name = false := by
  simpa [hasNull] using h.null

/-- What lies at a place is found under the path of that place, unless the path is too long. -/
theorem WellFormed.find?_of_at? (hw : d.WellFormed) (h : d.at? place ≠ none) :
    d.find? ⟨.slash, place⟩ =
      if (Path.text ⟨.slash, place⟩).utf8ByteSize > longestPath then .error .nameTooLong
      else .ok (d.at? place) := by
  have hl := hw.legal_of_mem h
  have hnull : ¬ place.any hasNull := by
    rw [List.any_eq_true]
    rintro ⟨name, hm, hn⟩
    rw [hasNull_eq_false (hl name hm)] at hn
    cases hn
  have hlook : d.lookFrom [] place = .ok (d.at? place) :=
    hw.lookFrom_eq fun name hm => ⟨(hl name hm).ne_dots, (hl name hm).size⟩
  rw [hw.find?_eq, if_neg hnull]
  split_ifs
  · rfl
  · exact hlook

end SceneMarkup.Disk
