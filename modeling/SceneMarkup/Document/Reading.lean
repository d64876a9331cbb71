import SceneMarkup.Document.Tag
import SceneMarkup.Diagnosis.Basic

/-! # Reading documents

A source is read tag by tag. Open fragments stand on a stack, innermost first, and each collects
the fragments inside it; a fragment joins them when it is closed. Reading ends because every tag
takes at least one character.
-/

namespace SceneMarkup

/-- A fragment whose closing tag has not been read; its children are kept latest first. -/
structure OpenFragment where
  name : String
  attributes : Entries AttributeValue
  bindings : Entries String
  place : Location
  children : List Fragment

def OpenFragment.ofTag (tag : Tag) (place : Location) : OpenFragment :=
  ⟨tag.name, tag.attributes, tag.bindings, place, []⟩

def OpenFragment.close (f : OpenFragment) : Fragment :=
  .mk f.name f.attributes f.bindings f.children.reverse f.place.line f.place.column

/-- What has been read of a source. Scripts and roots are kept latest first; `closed` counts the
fragments that are complete. -/
structure Reading where
  scanner : Scanner
  scripts : List Script
  roots : List Fragment
  stack : List OpenFragment
  closed : Nat

namespace Reading

def scriptTag : String := "script"

def scriptTerminator : String := "</script>"

def ofSource (source : List Char) : Reading := ⟨.ofSource source, [], [], [], 0⟩

/-- Put a complete fragment into the innermost open one, or among the roots. -/
def attach (r : Reading) (f : Fragment) : Reading :=
  match r.stack with
  | [] => { r with roots := f :: r.roots, closed := r.closed + 1 }
  | top :: outer =>
      { r with stack := { top with children := f :: top.children } :: outer
               closed := r.closed + 1 }

/-- Read a closing tag from its slash; `place` is where the tag begins. -/
def closeTag (r : Reading) (s : Scanner) (place : Location) : Except Stop Reading := do
  let (name, s) ← (s.skip 1).expect .tagName "tag name"
  let name := String.ofList name
  match r.stack with
  | [] => (Fault.closingUnopened name).stop place
  | top :: outer =>
      if top.name ≠ name then (Fault.closingOther name top.name).stop place
      else if s.current? ≠ some '>' then Fault.noTagEnd.stop s.here
      else return { ({ r with stack := outer }.attach top.close) with scanner := s.skip 1 }

/-- Take in what an opening tag at `place` begins: a leaf, a script or an open fragment. -/
def enter (r : Reading) (tag : Tag) (place : Location) (ending : Tag.Ending) (s : Scanner) :
    Except Stop Reading :=
  match ending with
  | .selfClosed => .ok { r.attach (OpenFragment.ofTag tag place).close with scanner := s }
  | .opened =>
      if tag.name = scriptTag then
        match s.scriptBody scriptTerminator.toList with
        | (some body, s) =>
            .ok { r with scripts := ⟨String.ofList body, tag.attributes⟩ :: r.scripts
                         scanner := s }
        | (none, s) => (Fault.openScript scriptTerminator).stop s.here
      else
        let s := s.skip 1
        if s.rest.isEmpty then (Fault.unfollowed tag.name).stop s.here
        else .ok { r with stack := .ofTag tag place :: r.stack, scanner := s }

/-- Read an opening tag from behind its `<`; `place` is where the tag begins. -/
def openTag (r : Reading) (s : Scanner) (place : Location) : Except Stop Reading := do
  let (name, s) ← s.skipBlanks.expect .tagName "tag name"
  let (tag, ending, s) ← (Tag.ofName (String.ofList name)).readItems s.skipBlanks
  r.enter tag place ending s

def readTag (r : Reading) (s : Scanner) : Except Stop Reading :=
  let place := s.here
  let s := s.skip 1
  match s.current? with
  | none => Fault.noTagName.stop s.here
  | some '!' => do
      let (_, s) ← s.expect .comment "comment"
      return { r with scanner := s }
  | some '/' => r.closeTag s place
  | some _ => r.openTag s place

/-- Read one tag or comment; at the end of the source there is none. -/
def step (r : Reading) : Except Stop (Option Reading) :=
  let s := r.scanner.skipBlanks
  match s.current? with
  | none =>
      match r.stack with
      | [] => return none
      | top :: _ => (Fault.unclosed top.name).stop s.here
  | some '<' => do
      let r ← r.readTag s
      return some r
  | some _ => Fault.strayText.stop s.here

section

open Scanner

theorem onward_closeTag {s₀ s : Scanner} {k : Nat} {place : Location} (r : Reading)
    (hp : ∃ s', s₀.Ahead 0 s' ∧ place = s'.here) (hs : s₀.Ahead k s) :
    s₀.Onward k scanner (r.closeTag s place) := by
  have h₁ := hs.trans (s.ahead_skip 1)
  refine ((onward_expect _ fun n _ => n.zero_le).of_ahead h₁).bind ?_
  rintro ⟨name, s₂⟩ h₂
  dsimp only
  split
  · exact hp
  · split
    · exact hp
    · split
      · exact onward_stop _ _ (h₂.mono (Nat.zero_le _))
      · exact (h₂.trans (s₂.ahead_skip 1)).mono (by omega)

theorem enter_of_script {s : Scanner} {tag : Tag} (r : Reading) (place : Location)
    (h : tag.name = scriptTag) : r.enter tag place .opened s =
      s.expectScriptBody scriptTerminator >>= fun x =>
        .ok { r with scripts := ⟨String.ofList x.1, tag.attributes⟩ :: r.scripts
                     scanner := x.2 } := by
  simp only [enter, if_pos h, expectScriptBody]
  cases s.scriptBody scriptTerminator.toList with
  | mk body s => cases body <;> rfl

theorem onward_enter {s₀ s : Scanner} {k : Nat} (r : Reading) (tag : Tag) (place : Location)
    (ending : Tag.Ending) (hs : s₀.Ahead k s) :
    s₀.Onward k scanner (r.enter tag place ending s) := by
  unfold enter
  split
  · exact hs
  · split
    · have hb := hs.trans (s.ahead_scriptBody scriptTerminator.toList)
      split
      · next h =>
        rw [h] at hb
        exact hb
      · next h =>
        rw [h] at hb
        exact onward_stop _ _ (hb.mono (Nat.zero_le _))
    · have h₁ := hs.trans (s.ahead_skip 1)
      dsimp only
      split
      · exact onward_stop _ _ (h₁.mono (Nat.zero_le _))
      · exact h₁.mono (Nat.le_succ k)

theorem onward_openTag {s₀ s : Scanner} {k : Nat} (r : Reading) (place : Location)
    (hs : s₀.Ahead k s) : s₀.Onward k scanner (r.openTag s place) := by
  have h₁ := hs.trans s.ahead_skipBlanks
  refine ((onward_expect _ fun n _ => n.zero_le).of_ahead h₁).bind ?_
  rintro ⟨name, s₂⟩ h₂
  have h₃ := h₂.trans s₂.ahead_skipBlanks
  refine ((Tag.onward_readItems _ _).of_ahead h₃).bind ?_
  rintro ⟨tag, ending, s₄⟩ h₄
  exact onward_enter r tag place ending h₄

theorem onward_readTag (r : Reading) (s : Scanner) : s.Onward 1 scanner (r.readTag s) := by
  have h₁ := s.ahead_skip 1
  unfold readTag
  dsimp only
  split
  · exact onward_stop _ _ (h₁.mono (Nat.zero_le _))
  · exact ((onward_expect _ fun n _ => n.zero_le).of_ahead h₁).bind fun _ h => h
  · exact onward_closeTag r ⟨s, s.ahead_refl, rfl⟩ h₁
  · exact onward_openTag r _ h₁

theorem onward_step (r : Reading) :
    r.scanner.Onward 0 (fun next => (next.getD r).scanner) r.step := by
  have h₁ := r.scanner.ahead_skipBlanks
  unfold step
  dsimp only
  split
  · split
    · exact r.scanner.ahead_refl
    · exact onward_stop _ _ h₁
  · exact ((onward_readTag r _).of_ahead h₁).bind fun _ h => h.mono (Nat.zero_le _)
  · exact onward_stop _ _ h₁

theorem step_length_lt {r r' : Reading} (h : r.step = .ok (some r')) :
    r'.scanner.rest.length < r.scanner.rest.length := by
  have h₁ := onward_readTag r r.scanner.skipBlanks
  unfold step at h
  dsimp only at h
  split at h
  · split at h <;> cases h
  · next hc =>
    match hr : r.readTag r.scanner.skipBlanks with
    | .error e =>
      rw [hr] at h
      cases h
    | .ok r'' =>
      rw [hr] at h h₁
      cases h
      have h₂ : r.scanner.skipBlanks.rest ≠ [] := by
        intro he
        simp [current?, he] at hc
      exact Nat.lt_of_lt_of_le (Ahead.length_lt h₁ h₂) r.scanner.length_skipBlanks_le
  · cases h

end

/-- Read tags up to the end of the source. -/
def run (r : Reading) : Except Stop Reading :=
  match _h : r.step with
  | .error e => .error e
  | .ok none => .ok r
  | .ok (some r') => run r'
termination_by r.scanner.rest.length
decreasing_by exact step_length_lt (by assumption)

theorem run_eq (r : Reading) : r.run = r.step >>= fun
    | none => .ok r
    | some r' => r'.run := by
  rw [run]
  split <;> next h => rw [h]; rfl

theorem onward_run (r : Reading) : r.scanner.Onward 0 scanner r.run := by
  fun_induction run r with
  | case1 r e h =>
    have hs := r.onward_step
    rw [h] at hs
    exact hs.error
  | case2 r h => exact r.scanner.ahead_refl
  | case3 r r' h ih =>
    have hs := r.onward_step
    rw [h] at hs
    exact ih.of_ahead hs

def document (r : Reading) : Document := ⟨r.scripts.reverse, r.roots.reverse⟩

/-- A literal is only read where a quote stands. -/
theorem run_ne_noQuote (r : Reading) (found : Option Char) : r.run ≠ .error (.noQuote found) := by
  intro h
  have hr := r.onward_run
  rw [h] at hr
  exact hr

end Reading

namespace Document

/-- Read a source to its end, or find its first fault. -/
def read (source : List Char) : Except Failure Reading :=
  match h : (Reading.ofSource source).run with
  | .ok r => .ok r
  | .error (.failure f) => .error f
  | .error (.noQuote found) => absurd h (Reading.run_ne_noQuote _ found)

/-- The document of a source, or the report of its first fault. -/
def parse (source : String) (path : Option String) : Except Diagnosis Document :=
  match read source.toList with
  | .ok r => .ok r.document
  | .error f => .error (Diagnosis.ofFailure source.toList path f)

theorem read_eq_ok_iff {source : List Char} {r : Reading} :
    read source = .ok r ↔ (Reading.ofSource source).run = .ok r := by
  unfold read
  split
  · simp_all
  · simp_all
  · next h => exact absurd h (Reading.run_ne_noQuote _ _)

theorem read_eq_error_iff {source : List Char} {f : Failure} :
    read source = .error f ↔ (Reading.ofSource source).run = .error (.failure f) := by
  unfold read
  split
  · simp_all
  · simp_all
  · next h => exact absurd h (Reading.run_ne_noQuote _ _)

theorem parse_eq_ok_iff {source : String} {path : Option String} {d : Document} :
    parse source path = .ok d ↔
      ∃ r, (Reading.ofSource source.toList).run = .ok r ∧ r.document = d := by
  simp only [← read_eq_ok_iff, parse]
  cases read source.toList <;> simp

theorem parse_eq_error_iff {source : String} {path : Option String} {e : Diagnosis} :
    parse source path = .error e ↔
      ∃ f, (Reading.ofSource source.toList).run = .error (.failure f) ∧
        .ofFailure source.toList path f = e := by
  simp only [← read_eq_error_iff, parse]
  cases read source.toList <;> simp

end Document

end SceneMarkup
