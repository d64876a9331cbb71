import SceneMarkup.Proofs.Document.Acceptance

/-! # Tags left open

Between two nodes, a first part of a source leaves some tags open. Which ones is settled by the
part alone, and they are the names on the stack of every reading that has come that far.
-/

namespace SceneMarkup

/-- The part of a source in front of a rest leaves the tags of these names open, innermost first:
all other nodes in it are complete. -/
inductive LeavesOpen (source : List Char) : List String → List Char → Prop where
  | start {w rest : List Char} : source = w ++ rest → Blanks w → LeavesOpen source [] rest
  | node {names : List String} {cs w rest : List Char} {scripts : List Script}
      {fragments : List Fragment} :
      LeavesOpen source names cs → Node cs (w ++ rest) scripts fragments → Blanks w →
      LeavesOpen source names rest
  | opened {names : List String} {name : List Char} {items : List Item} {cs w rest : List Char} :
      LeavesOpen source names cs → Head name items cs ('>' :: (w ++ rest)) →
      String.ofList name ≠ Reading.scriptTag → Blanks w →
      LeavesOpen source (.ofList name :: names) rest

theorem Content.concat {cs ds w rest : List Char} {scripts scripts' : List Script}
    {fragments fragments' : List Fragment} : Content cs ds scripts fragments →
      Node ds (w ++ rest) scripts' fragments' → Blanks w →
      Content cs rest (scripts ++ scripts') (fragments ++ fragments')
  | .nil, hn, hw => by simpa using Content.cons hn hw .nil
  | .cons hn' hw' hc, hn, hw => by
    rw [List.append_assoc, List.append_assoc]
    exact .cons hn' hw' (hc.concat hn hw)

variable {source cs w rest : List Char} {names names' : List String} {name : String}

namespace LeavesOpen

theorem skip (h : LeavesOpen source names (w ++ rest)) (hw : Blanks w) :
    LeavesOpen source names rest := by
  generalize hr : w ++ rest = cs at h
  cases h <;> subst hr
  case start w' hw' hs =>
    rw [← List.append_assoc] at hs
    exact .start hs (hw'.append hw)
  case node w' hw' h hn =>
    rw [← List.append_assoc] at hn
    exact .node h hn (hw'.append hw)
  case opened w' h hne hw' hh =>
    rw [← List.append_assoc] at hh
    exact .opened h hh hne (hw'.append hw)

theorem exists_head (h : LeavesOpen source (name :: names) rest) :
    ∃ cs items w ds scripts fragments, LeavesOpen source names cs ∧
      Head name.toList items cs ('>' :: (w ++ ds)) ∧ name ≠ Reading.scriptTag ∧ Blanks w ∧
      Content ds rest scripts fragments := by
  generalize hn : name :: names = names' at h
  induction h with
  | start => cases hn
  | node _ hnode hw ih =>
    obtain ⟨cs, items, w, ds, scripts, fragments, h, hh, hne, hw', hc⟩ := ih hn
    exact ⟨cs, items, w, ds, _, _, h, hh, hne, hw', hc.concat hnode hw⟩
  | @opened names₀ name₀ items cs w rest h hh hne hw =>
    obtain ⟨rfl, rfl⟩ := List.cons.inj hn
    refine ⟨cs, items, w, rest, [], [], h, ?_, hne, hw, .nil⟩
    rwa [String.toList_ofList]

/-- A closing tag closes the tag that is left open innermost. -/
theorem close (h : LeavesOpen source (name :: names)
    ('<' :: '/' :: (name.toList ++ '>' :: rest))) : LeavesOpen source names rest := by
  obtain ⟨cs, items, w, ds, scripts, fragments, h, hh, hne, hw, hc⟩ := h.exists_head
  have hn : Node cs ([] ++ rest) scripts
      [.mk (.ofList name.toList) (Item.attributes items) (Item.bindings items) fragments 0 0] :=
    .element hh (by rwa [String.ofList_toList]) hw hc
  exact .node h hn (by simp [Blanks])

end LeavesOpen

namespace Reading

open Scanner

def openNames (r : Reading) : List String := r.stack.map OpenFragment.name

variable {r r' r₀ : Reading} {s : Scanner}

theorem openNames_gain (r : Reading) (scripts : List Script) (fragments : List Fragment)
    (s : Scanner) : (r.gain scripts fragments s).openNames = r.openNames := by
  obtain ⟨_, _, _, _ | ⟨_, _⟩, _⟩ := r <;> rfl

theorem openNames_pop (r : Reading) (s : Scanner) : (r.pop s).openNames = r.openNames.tail := by
  obtain ⟨_, _, _, _ | ⟨_, _ | ⟨_, _⟩⟩, _⟩ := r <;> rfl

/-- The stack of a reading holds what the part before its scanner leaves open. -/
theorem leavesOpen_step (h : LeavesOpen source r.openNames r.scanner.rest)
    (hr : r.step = .ok (some r')) : LeavesOpen source r'.openNames r'.scanner.rest := by
  obtain ⟨w, cs, hw, hs, ha⟩ := advances_of_step hr
  have hcs : LeavesOpen source r.openNames cs := LeavesOpen.skip (hs ▸ h) hw
  have hb : Blanks [] := by simp [Blanks]
  cases ha with
  | node hn =>
    rw [openNames_gain]
    exact .node (w := []) hcs hn hb
  | opened hh hne => exact .opened (w := []) hcs hh hne hb
  | @closed top outer s hst =>
    rw [openNames_pop]
    rw [openNames, hst] at hcs ⊢
    have hp : (r.pop s).scanner = s := by
      rw [pop, hst]
    rw [hp]
    exact hcs.close

theorem Reaches.total (h : r₀.Reaches r) (h' : r₀.Reaches r') :
    r.Reaches r' ∨ r'.Reaches r := by
  induction h with
  | refl => exact .inl h'
  | step hs h ih =>
    cases h' with
    | refl => exact .inr (.step hs h)
    | step hs' h' =>
      obtain rfl := Option.some.inj (Except.ok.inj (hs.symm.trans hs'))
      exact ih h'

theorem Reaches.length_le (h : r.Reaches r') :
    r'.scanner.rest.length ≤ r.scanner.rest.length := by
  induction h with
  | refl => exact Nat.le_refl _
  | step hs _ ih => exact ih.trans (step_length_lt hs).le

theorem Reaches.eq_of_rest {w w' : List Char} (h : r.Reaches r') (hw : Blanks w)
    (hr : r.scanner.rest = w ++ '<' :: rest) (hr' : r'.scanner.rest = w' ++ '<' :: rest) :
    r = r' := by
  cases h with
  | refl => rfl
  | step hs h =>
    obtain ⟨w₁, s, hw₁, hp, hc, -, ha⟩ := takes_of_step hs
    obtain ⟨ds, hd⟩ := current?_eq_some_iff.mp hc
    have hrs : s.rest = '<' :: rest := by
      have he : w₁ ++ s.rest = w ++ '<' :: rest := hp.rest.symm.trans hr
      have hsolid : Solid s.rest := hd ▸ solid_cons (by decide)
      exact (hw₁.eq_of_append_eq hw hsolid (solid_cons (by decide)) he).2
    have hlt := ha.length_lt (by simp [hrs])
    have hle := h.length_le
    rw [hr', List.length_append] at hle
    rw [hrs] at hlt
    omega

end Reading

namespace LeavesOpen

open Reading

theorem reaches (h : LeavesOpen source names rest) (hne : rest ≠ []) :
    ∃ r w, (ofSource source).Reaches r ∧ Blanks w ∧ r.scanner.rest = w ++ rest ∧
      r.openNames = names := by
  induction h with
  | start hs hw => exact ⟨_, _, .refl, hw, hs, rfl⟩
  | @node names cs w rest scripts fragments _ hn hw ih =>
    obtain ⟨ds, rfl⟩ := hn.head
    obtain ⟨r, w', h, hw', hr, ho⟩ := ih (List.cons_ne_nil _ _)
    obtain ⟨fragments', s, -, hs, h'⟩ := hn.reaches r hw' hr
    exact ⟨_, w, h.trans h', hw, hs, by rw [openNames_gain, ho]⟩
  | @opened names name items cs w rest _ hh hn hw ih =>
    obtain ⟨ds, rfl⟩ := hh.cons
    obtain ⟨r, w', h, hw', hr, ho⟩ := ih (List.cons_ne_nil _ _)
    obtain ⟨s, place, hs, h'⟩ := step_of_opened hh hn (by simp [hne]) hw' hr
    exact ⟨_, w, h.trans (.step h' .refl), hw, hs, by rw [← ho]; rfl⟩

/-- In front of a tag, what is left open is settled. -/
theorem unique (h : LeavesOpen source names ('<' :: rest))
    (h' : LeavesOpen source names' ('<' :: rest)) : names = names' := by
  obtain ⟨r, w, hr, hw, hs, rfl⟩ := h.reaches (List.cons_ne_nil _ _)
  obtain ⟨r', w', hr', hw', hs', rfl⟩ := h'.reaches (List.cons_ne_nil _ _)
  rcases hr.total hr' with h | h
  · rw [h.eq_of_rest hw hs hs']
  · rw [h.eq_of_rest hw' hs' hs]

end LeavesOpen

end SceneMarkup
