import SceneMarkup.Document.Reading
import SceneMarkup.Proofs.Document.Place
import SceneMarkup.Proofs.Source.Behind

/-! # Documents behind a text

A source that is read behind a text, after a reading that has complete scripts and roots, is read
as it would be read alone. What it holds comes after what is there, at moved places, and what stops
it is reported at a moved place.
-/

namespace SceneMarkup

open Scanner

/-- The fragment when the source is put behind a text. -/
def Fragment.behind (p : List Char) : Fragment → Fragment :=
  moved fun place => (place.1 + p.count '\n', if place.1 = 1 then place.2 + lastLine p else place.2)

namespace OpenFragment

def behind (p : List Char) (f : OpenFragment) : OpenFragment :=
  { f with place := f.place.behind p, children := f.children.map (Fragment.behind p) }

theorem close_behind (p : List Char) (f : OpenFragment) :
    (f.behind p).close = f.close.behind p := by
  simp [close, behind, Fragment.behind, Fragment.moved, Location.behind, List.map_reverse]

end OpenFragment

namespace Tag

variable (p : List Char) (tag : Tag) (s : Scanner) (name : String) (place : Location)

theorem behind_setAttribute (value : AttributeValue) :
    tag.setAttribute name value (place.behind p) =
      moved p id (tag.setAttribute name value place) := by
  unfold setAttribute
  split <;> rfl

theorem behind_setShorthand :
    tag.setShorthand name (place.behind p) = moved p id (tag.setShorthand name place) := by
  unfold setShorthand
  split <;> rfl

theorem behind_setBinding (source : String) :
    tag.setBinding name source (place.behind p) =
      moved p id (tag.setBinding name source place) := by
  unfold setBinding
  split <;> rfl

theorem behind_readShorthand :
    tag.readShorthand (s.behind p) = moved p (moveSnd p) (tag.readShorthand s) := by
  unfold readShorthand
  simp only [behind_skip, behind_skipBlanks, behind_expect]
  refine moved_bind ?_
  rintro ⟨name, s₁⟩
  simp only [moveSnd, behind_skip, behind_skipBlanks, behind_current?, behind_here]
  split
  · rw [behind_setShorthand]
    exact moved_bind fun _ => rfl
  · rfl

theorem behind_readValue : tag.readValue name (place.behind p) (s.behind p) =
    moved p (moveSnd p) (tag.readValue name place s) := by
  unfold readValue
  simp only [behind_current?, behind_here, behind_binding, moveSnd]
  split
  · generalize s.binding = b
    obtain ⟨_ | source, s₁⟩ := b
    · rfl
    · simp only [behind_setBinding]
      exact moved_bind fun _ => rfl
  · rfl
  · next c _ _ hc =>
    split
    · next hq =>
      rw [behind_literal p s _ hc hq]
      refine moved_bind ?_
      rintro ⟨text, s₁⟩
      simp only [moveSnd, behind_setAttribute]
      exact moved_bind fun _ => rfl
    · rfl
  · rfl

theorem behind_readNamed :
    tag.readNamed (s.behind p) = moved p (moveSnd p) (tag.readNamed s) := by
  unfold readNamed
  simp only [behind_expect, behind_here]
  refine moved_bind ?_
  rintro ⟨name, s₁⟩
  simp only [moveSnd, behind_skip, behind_skipBlanks, behind_current?]
  split
  · rw [behind_readValue]
    refine moved_bind ?_
    rintro ⟨tag', s₂⟩
    simp only [moveSnd, behind_skipBlanks]
    rfl
  · rw [behind_setAttribute]
    exact moved_bind fun _ => rfl

def Step.behind : Step → Step
  | item tag s => .item tag (s.behind p)
  | selfClosed s => .selfClosed (s.behind p)
  | opened s => .opened (s.behind p)

theorem behind_step : tag.step (s.behind p) = moved p (Step.behind p) (tag.step s) := by
  unfold step
  simp only [behind_current?, behind_here, behind_skip]
  split
  · rfl
  · split <;> rfl
  · rfl
  · rw [behind_readShorthand]
    exact moved_bind fun _ => rfl
  · rw [behind_readNamed]
    exact moved_bind fun _ => rfl

theorem behind_readItems : tag.readItems (s.behind p) =
    moved p (fun r => (r.1, r.2.1, r.2.2.behind p)) (tag.readItems s) := by
  fun_induction readItems tag s with
  | case1 tag s e h | case2 tag s s' h | case3 tag s s' h =>
    rw [readItems_eq, behind_step, h]
    rfl
  | case4 tag s tag' s' h ih =>
    rw [readItems_eq, behind_step, h]
    exact ih

end Tag

namespace Reading

/-- The reading of a source that comes behind a text and after a reading without open fragments. -/
def behind (p : List Char) (before r : Reading) : Reading where
  scanner := r.scanner.behind p
  scripts := r.scripts ++ before.scripts
  roots := r.roots.map (Fragment.behind p) ++ before.roots
  stack := r.stack.map (OpenFragment.behind p)
  closed := r.closed + before.closed

variable (p : List Char) (before r : Reading) (s s' : Scanner) (place : Location)

theorem behind_attach (f : Fragment) :
    { ({ behind p before r with scanner := s } : Reading).attach (f.behind p) with
      scanner := s'.behind p } = behind p before { r.attach f with scanner := s' } := by
  obtain ⟨_, _, _, _ | ⟨top, outer⟩, _⟩ := r <;>
    simp [behind, attach, OpenFragment.behind, Nat.add_right_comm]

theorem behind_closeTag :
    ({ behind p before r with scanner := s' } : Reading).closeTag (s.behind p) (place.behind p) =
      moved p (behind p before) (r.closeTag s place) := by
  unfold closeTag
  simp only [behind_skip, behind_expect]
  refine moved_bind ?_
  rintro ⟨name, s₁⟩
  obtain ⟨scanner, scripts, roots, _ | ⟨top, outer⟩, closed⟩ := r
  · rfl
  · simp only [moveSnd, behind_skip, behind_current?, behind_here]
    have hn : (top.behind p).name = top.name := rfl
    have ha := behind_attach p before ⟨scanner, scripts, roots, outer, closed⟩ s' (s₁.skip 1)
      top.close
    rw [← OpenFragment.close_behind] at ha
    simp only [behind, List.map_cons, hn] at ha ⊢
    split
    · rfl
    · split
      · rfl
      · exact congrArg Except.ok ha

theorem behind_enter (tag : Tag) (ending : Tag.Ending) :
    ({ behind p before r with scanner := s' } : Reading).enter tag (place.behind p) ending
      (s.behind p) = moved p (behind p before) (r.enter tag place ending s) := by
  cases ending with
  | selfClosed =>
    have ha := behind_attach p before r s' s (OpenFragment.ofTag tag place).close
    rw [← OpenFragment.close_behind] at ha
    exact congrArg Except.ok ha
  | opened =>
    simp only [enter, behind_scriptBody, moveSnd, behind_skip, behind_rest, behind_here]
    split
    · generalize s.scriptBody scriptTerminator.toList = b
      obtain ⟨_ | body, s₁⟩ := b <;> rfl
    · split <;> rfl

theorem behind_openTag :
    ({ behind p before r with scanner := s' } : Reading).openTag (s.behind p) (place.behind p) =
      moved p (behind p before) (r.openTag s place) := by
  unfold openTag
  simp only [behind_skipBlanks, behind_expect]
  refine moved_bind ?_
  rintro ⟨name, s₁⟩
  simp only [moveSnd, behind_skipBlanks, Tag.behind_readItems]
  refine moved_bind ?_
  rintro ⟨tag, ending, s₂⟩
  exact behind_enter ..

theorem behind_readTag :
    ({ behind p before r with scanner := s' } : Reading).readTag (s.behind p) =
      moved p (behind p before) (r.readTag s) := by
  unfold readTag
  simp only [behind_skip, behind_current?, behind_here]
  split
  · rfl
  · rw [behind_expect]
    exact moved_bind fun _ => rfl
  · exact behind_closeTag ..
  · exact behind_openTag ..

theorem behind_step (h : s.skipBlanks = r.scanner.skipBlanks.behind p) :
    ({ behind p before r with scanner := s } : Reading).step =
      moved p (Option.map (behind p before)) r.step := by
  unfold step
  simp only [h, behind_current?, behind_here]
  split
  · obtain ⟨_, _, _, _ | ⟨top, outer⟩, _⟩ := r <;> rfl
  · rw [behind_readTag]
    exact moved_bind fun _ => rfl
  · rfl

theorem behind_run_ok {r' : Reading} (h : s.skipBlanks = r.scanner.skipBlanks.behind p)
    (hr : r.run = .ok r') : ∃ s', ({ behind p before r with scanner := s } : Reading).run =
      .ok { behind p before r' with scanner := s' } := by
  fun_induction run r generalizing s with
  | case1 => cases hr
  | case2 r hs =>
    obtain rfl := Except.ok.inj hr
    refine ⟨s, ?_⟩
    rw [run_eq, behind_step p before r s h, hs]
    rfl
  | case3 r r₁ hs ih =>
    obtain ⟨s', h'⟩ := ih (r₁.scanner.behind p) (behind_skipBlanks ..) hr
    refine ⟨s', ?_⟩
    rw [run_eq, behind_step p before r s h, hs]
    exact h'

theorem behind_run_error {e : Stop} (h : s.skipBlanks = r.scanner.skipBlanks.behind p)
    (hr : r.run = .error e) :
    ({ behind p before r with scanner := s } : Reading).run = .error (e.behind p) := by
  fun_induction run r generalizing s with
  | case1 r e' hs =>
    obtain rfl := Except.error.inj hr
    rw [run_eq, behind_step p before r s h, hs]
    rfl
  | case2 => cases hr
  | case3 r r₁ hs ih =>
    rw [run_eq, behind_step p before r s h, hs]
    exact ih (r₁.scanner.behind p) (behind_skipBlanks ..) hr

end Reading

end SceneMarkup
