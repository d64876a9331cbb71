import SceneMarkup.Proofs.Document.Acceptance
import SceneMarkup.Proofs.Source.Standing

/-! # Progress

Reading has two loops, over the tags of a source and over the items of a tag. Every turn of either
moves the scanner on, so that loops which may turn once for each character and once more read what
the loops without a bound read.
-/

namespace SceneMarkup

/-- Reading that may run out of turns. -/
abbrev Bounded (α : Type) := ExceptT Stop Option α

namespace Bounded

variable {α β : Type}

def exhausted : Bounded α := ExceptT.mk none

def of (x : Except Stop α) : Bounded α := ExceptT.mk (some x)

theorem of_bind {x : Except Stop α} {f : α → Except Stop β} {g : α → Bounded β}
    (h : ∀ a, x = .ok a → g a = of (f a)) : of x >>= g = of (x >>= f) := by
  cases x with
  | error e => rfl
  | ok a => exact h a rfl

end Bounded

def Tag.readItemsWithin : Tag → Scanner → Nat → Bounded (Tag × Ending × Scanner)
  | _, _, 0 => .exhausted
  | tag, s, turns + 1 => do
      match ← Bounded.of (tag.step s) with
      | .item tag' s' => tag'.readItemsWithin s' turns
      | .selfClosed s' => return (tag, .selfClosed, s')
      | .opened s' => return (tag, .opened, s')

namespace Reading

def openTagWithin (r : Reading) (s : Scanner) (place : Location) (items : Nat) :
    Bounded Reading := do
  let (name, s) ← Bounded.of (s.skipBlanks.expect .tagName "tag name")
  let (tag, ending, s) ← (Tag.ofName (String.ofList name)).readItemsWithin s.skipBlanks items
  Bounded.of (r.enter tag place ending s)

def readTagWithin (r : Reading) (s : Scanner) (items : Nat) : Bounded Reading :=
  match (s.skip 1).current? with
  | none | some '!' | some '/' => .of (r.readTag s)
  | some _ => r.openTagWithin (s.skip 1) s.here items

def stepWithin (r : Reading) (items : Nat) : Bounded (Option Reading) :=
  match r.scanner.skipBlanks.current? with
  | some '<' => do
      let r' ← r.readTagWithin r.scanner.skipBlanks items
      return some r'
  | _ => .of r.step

/-- Read tags up to the end of the source in at most so many turns, and the items of each of them
in at most `items` turns. -/
def runWithin (items : Nat) : Reading → Nat → Bounded Reading
  | _, 0 => .exhausted
  | r, turns + 1 => do
      match ← r.stepWithin items with
      | none => return r
      | some r' => r'.runWithin items turns

/-- The loop over the items of a tag comes to a tag and a scanner when a source is read. -/
inductive Visits (source : List Char) : Tag → Scanner → Prop where
  | first {r : Reading} {c : Char} {name : List Char} {s : Scanner} :
      (ofSource source).Reaches r → r.scanner.skipBlanks.current? = some '<' →
      (r.scanner.skipBlanks.skip 1).current? = some c → c ≠ '!' → c ≠ '/' →
      (r.scanner.skipBlanks.skip 1).skipBlanks.expect .tagName "tag name" = .ok (name, s) →
      Visits source (Tag.ofName (String.ofList name)) s.skipBlanks
  | next {tag tag' : Tag} {s s' : Scanner} :
      Visits source tag s → tag.step s = .ok (.item tag' s') → Visits source tag' s'

end Reading

/-- From one place of a source to a later one. -/
def Scanner.MovesOn (source : List Char) (s s' : Scanner) : Prop :=
  ∃ m n, m < n ∧ s.StandsAt source m ∧ s'.StandsAt source n

section

variable {source : List Char} {s s' : Scanner} {tag tag' : Tag} {r r' : Reading}
  {place : Location} {m items turns : Nat}

/-! ### Turns move the scanner on -/

namespace Scanner

theorem Ahead.length_le {k : Nat} (h : s.Ahead k s') : s'.rest.length ≤ s.rest.length := by
  obtain ⟨n, -, rfl⟩ := h
  rw [length_skip]
  exact Nat.sub_le ..

theorem StandsAt.movesOn (h : s.StandsAt source m) (ha : s.Ahead 0 s')
    (hl : s'.rest.length < s.rest.length) : MovesOn source s s' := by
  obtain ⟨n, -, hn⟩ := h.ahead ha
  have hle := hn.le
  rw [h.rest, hn.rest, List.length_drop, List.length_drop] at hl
  exact ⟨m, n, by omega, h, hn⟩

theorem ahead_of_expect {t : Token} {label : String} {text : List Char}
    (h : s.expect t label = .ok (text, s')) : s.Ahead 0 s' := by
  obtain ⟨n, -, -, rfl⟩ := expect_eq_ok_iff.mp h
  exact ⟨n, n.zero_le, rfl⟩

theorem ahead_of_name {t : Token} {label : String} {name : List Char}
    (h : s.skipBlanks.expect t label = .ok (name, s')) : s.Ahead 0 s'.skipBlanks :=
  (s.ahead_skipBlanks.trans (ahead_of_expect h)).trans s'.ahead_skipBlanks

end Scanner

open Scanner

theorem Tag.ahead_of_step (h : tag.step s = .ok (.item tag' s')) : s.Ahead 0 s' := by
  have hs := onward_step tag s
  rwa [h] at hs

namespace Reading

theorem ahead_of_step (h : r.step = .ok (some r')) : r.scanner.Ahead 0 r'.scanner := by
  have hs := onward_step r
  rwa [h] at hs

theorem Reaches.standsAt (h : (ofSource source).Reaches r) : ∃ n, r.scanner.StandsAt source n := by
  obtain ⟨text, hp⟩ := h.exists_passes
  exact ⟨_, (standsAt_ofSource source).passes hp⟩

theorem Visits.standsAt (h : Visits source tag s) : ∃ n, s.StandsAt source n := by
  induction h with
  | @first r _ _ s hr _ _ _ _ hn =>
    obtain ⟨n, hs⟩ := hr.standsAt
    have ha := r.scanner.ahead_skipBlanks.trans (ahead_skip _ 1)
    obtain ⟨m, -, hm⟩ := hs.ahead (ha.trans (ahead_of_name hn))
    exact ⟨m, hm⟩
  | next _ ht ih =>
    obtain ⟨n, hs⟩ := ih
    obtain ⟨m, -, hm⟩ := hs.ahead (Tag.ahead_of_step ht)
    exact ⟨m, hm⟩

end Reading

/-! ### Turns for every character -/

theorem Tag.readItemsWithin_eq (h : s.rest.length < turns) :
    tag.readItemsWithin s turns = .of (tag.readItems s) := by
  induction turns generalizing tag s with
  | zero => cases h
  | succ turns ih =>
    rw [readItemsWithin, readItems_eq]
    refine Bounded.of_bind fun next hn => ?_
    cases next with
    | item tag' s' =>
      have hl := step_length_lt hn
      exact ih (by omega)
    | selfClosed s' | opened s' => rfl

namespace Reading

theorem openTagWithin_eq (h : s.rest.length < items) :
    r.openTagWithin s place items = .of (r.openTag s place) := by
  refine Bounded.of_bind ?_
  rintro ⟨name, s₁⟩ hn
  dsimp only
  rw [Tag.readItemsWithin_eq (Nat.lt_of_le_of_lt (ahead_of_name hn).length_le h)]
  exact Bounded.of_bind fun _ _ => rfl

theorem readTagWithin_eq (h : s.rest.length < items) :
    r.readTagWithin s items = .of (r.readTag s) := by
  have hl : (s.skip 1).rest.length < items := Nat.lt_of_le_of_lt (ahead_skip s 1).length_le h
  unfold readTagWithin
  split
  · rfl
  · rfl
  · rfl
  · next hb hs hc =>
    rw [openTagWithin_eq hl, readTag, hc]
    split
    · next h => cases h
    · next h => exact absurd (Option.some.inj h) hb
    · next h => exact absurd (Option.some.inj h) hs
    · rfl

theorem stepWithin_eq (h : r.scanner.rest.length < items) :
    r.stepWithin items = .of r.step := by
  have hl := Nat.lt_of_le_of_lt r.scanner.ahead_skipBlanks.length_le h
  unfold stepWithin
  split
  · next hc =>
    rw [readTagWithin_eq hl, step, hc]
    exact Bounded.of_bind fun _ _ => rfl
  · rfl

theorem runWithin_eq (hi : r.scanner.rest.length < items) (ht : r.scanner.rest.length < turns) :
    r.runWithin items turns = .of r.run := by
  induction turns generalizing r with
  | zero => cases ht
  | succ turns ih =>
    rw [runWithin, run_eq, stepWithin_eq hi]
    refine Bounded.of_bind fun next hn => ?_
    cases next with
    | none => rfl
    | some r' =>
      have hl := step_length_lt hn
      exact ih (by omega) (by omega)

end Reading

/-- Every turn of the loop over the tags of a source, and of the loop over the items of each tag,
moves the scanner on to a later place of the source. With more turns than characters for either loop
reading does not run out of them, and it ends as it does without a bound. -/
theorem Document.parse_progresses (source : String) (path : Option String) :
    (∀ r r', (Reading.ofSource source.toList).Reaches r → r.step = .ok (some r') →
      r.scanner.MovesOn source.toList r'.scanner) ∧
    (∀ tag s tag' s', Reading.Visits source.toList tag s → tag.step s = .ok (.item tag' s') →
      s.MovesOn source.toList s') ∧
    ((∃ r, parse source path = .ok r.document ∧
        ∀ items turns, source.length < items → source.length < turns →
          ((Reading.ofSource source.toList).runWithin items turns).run = some (.ok r)) ∨
      ∃ f, parse source path = .error (.ofFailure source.toList path f) ∧
        ∀ items turns, source.length < items → source.length < turns →
          ((Reading.ofSource source.toList).runWithin items turns).run =
            some (.error (.failure f))) := by
  refine ⟨fun r r' hr hs => ?_, fun tag s tag' s' hv hs => ?_, ?_⟩
  · obtain ⟨n, hn⟩ := hr.standsAt
    exact hn.movesOn (Reading.ahead_of_step hs) (Reading.step_length_lt hs)
  · obtain ⟨n, hn⟩ := hv.standsAt
    exact hn.movesOn (Tag.ahead_of_step hs) (Tag.step_length_lt hs)
  · have within (items turns : Nat) (hi : source.length < items) (ht : source.length < turns) :
        ((Reading.ofSource source.toList).runWithin items turns).run =
          some (Reading.ofSource source.toList).run := by
      rw [← String.length_toList] at hi ht
      rw [Reading.runWithin_eq hi ht]
      rfl
    cases h : parse source path with
    | ok d =>
      obtain ⟨r, hr, rfl⟩ := parse_eq_ok_iff.mp h
      exact .inl ⟨r, rfl, hr ▸ within⟩
    | error e =>
      obtain ⟨f, hf, rfl⟩ := parse_eq_error_iff.mp h
      exact .inr ⟨f, rfl, hf ▸ within⟩

end

end SceneMarkup
