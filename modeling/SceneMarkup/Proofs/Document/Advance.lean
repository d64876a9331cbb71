import SceneMarkup.Proofs.Document.Place
import SceneMarkup.Proofs.Document.Tag

/-! # Steps of a reading

A step takes a node without inner nodes, opens a fragment, or closes the innermost one.
-/

namespace SceneMarkup

namespace Reading

open Scanner Token

/-- The reading behind complete scripts and fragments. -/
def gain (r : Reading) (scripts : List Script) (fragments : List Fragment) (s : Scanner) :
    Reading where
  scanner := s
  scripts := scripts.reverse ++ r.scripts
  roots := match r.stack with
    | [] => fragments.reverse ++ r.roots
    | _ :: _ => r.roots
  stack := match r.stack with
    | [] => []
    | top :: outer => { top with children := fragments.reverse ++ top.children } :: outer
  closed := r.closed + Fragment.sizeAll fragments

def push (r : Reading) (top : OpenFragment) (s : Scanner) : Reading :=
  { r with stack := top :: r.stack, scanner := s }

def pop (r : Reading) (s : Scanner) : Reading :=
  match r.stack with
  | [] => { r with scanner := s }
  | top :: outer => { ({ r with stack := outer }.attach top.close) with scanner := s }

/-- A step from a source, blanks aside. -/
inductive Advances (r : Reading) : List Char → Reading → Prop where
  | node {cs : List Char} {scripts : List Script} {fragments : List Fragment} {s : Scanner} :
      Node cs s.rest scripts fragments → Advances r cs (r.gain scripts fragments s)
  | opened {name : List Char} {items : List Item} {cs : List Char} {place : Location}
      {s : Scanner} :
      Head name items cs ('>' :: s.rest) → String.ofList name ≠ scriptTag →
      Advances r cs
        (r.push ⟨.ofList name, Item.attributes items, Item.bindings items, place, []⟩ s)
  | closed {top : OpenFragment} {outer : List OpenFragment} {s : Scanner} :
      r.stack = top :: outer →
      Advances r ('<' :: '/' :: (top.name.toList ++ '>' :: s.rest)) (r.pop s)

/-- What the tag or comment at a scanner makes of a reading. A fragment stands where its tag
begins. -/
inductive Takes (r : Reading) (s : Scanner) : Reading → Prop where
  | comment {body : List Char} {s' : Scanner} : IsCommentBody body →
      s.rest = '<' :: (commentStart ++ body ++ commentEnd ++ s'.rest) →
      Takes r s (r.gain [] [] s')
  | script {items : List Item} {body : List Char} {s' : Scanner} :
      Head scriptTag.toList items s.rest
        ('>' :: (body ++ (scriptTerminator.toList ++ s'.rest))) →
      IsScriptBody scriptTerminator.toList body →
      Takes r s (r.gain [⟨.ofList body, Item.attributes items⟩] [] s')
  | leaf {name : List Char} {items : List Item} {s' : Scanner} :
      Head name items s.rest ('/' :: '>' :: s'.rest) →
      Takes r s (r.gain [] [.mk (.ofList name) (Item.attributes items) (Item.bindings items) []
        s.here.line s.here.column] s')
  | opened {name : List Char} {items : List Item} {s' : Scanner} :
      Head name items s.rest ('>' :: s'.rest) → String.ofList name ≠ scriptTag →
      Takes r s
        (r.push ⟨.ofList name, Item.attributes items, Item.bindings items, s.here, []⟩ s')
  | closed {top : OpenFragment} {outer : List OpenFragment} {s' : Scanner} :
      r.stack = top :: outer → s.rest = '<' :: '/' :: (top.name.toList ++ '>' :: s'.rest) →
      Takes r s (r.pop s')

variable {r r' : Reading} {s s' : Scanner} {scripts scripts' : List Script}
  {fragments fragments' : List Fragment} {cs w name rest : List Char} {items : List Item}
  {place : Location} {tag : Tag} {ending : Tag.Ending}

@[simp] theorem gain_nil (r : Reading) (s : Scanner) :
    r.gain [] [] s = { r with scanner := s } := by
  obtain ⟨_, _, _, _ | ⟨_, _⟩, _⟩ := r <;> rfl

theorem gain_script (r : Reading) (script : Script) (s : Scanner) :
    r.gain [script] [] s = { r with scripts := script :: r.scripts, scanner := s } := by
  obtain ⟨_, _, _, _ | ⟨_, _⟩, _⟩ := r <;> rfl

@[simp] theorem scanner_gain : (r.gain scripts fragments s).scanner = s := rfl

theorem gain_gain : (r.gain scripts fragments s).gain scripts' fragments' s' =
    r.gain (scripts ++ scripts') (fragments ++ fragments') s' := by
  obtain ⟨_, _, _, _ | ⟨_, _⟩, _⟩ := r <;>
    simp [gain, Fragment.sizeAll_append, Nat.add_assoc]

theorem attach_eq_gain {f : Fragment} (hf : f.children = []) :
    { r.attach f with scanner := s } = r.gain [] [f] s := by
  have : f.size = 1 := by rw [f.size_eq, hf]; rfl
  obtain ⟨_, _, _, _ | ⟨_, _⟩, _⟩ := r <;> simp [gain, attach, Fragment.sizeAll, this]

/-- What is taken between an opening tag and its closing tag becomes one fragment. -/
theorem pop_gain_push {name : String} {attributes : Entries AttributeValue}
    {bindings : Entries String} {s'' : Scanner} :
    (((r.push ⟨name, attributes, bindings, place, []⟩ s).gain scripts fragments s').pop s'') =
      r.gain scripts [.mk name attributes bindings fragments place.line place.column] s'' := by
  obtain ⟨_, _, _, _ | ⟨_, _⟩, _⟩ := r <;>
    simp [gain, push, pop, attach, OpenFragment.close, Fragment.sizeAll, Fragment.size] <;> omega

theorem step_eq_some_iff : r.step = .ok (some r') ↔
    r.scanner.skipBlanks.current? = some '<' ∧ r.readTag r.scanner.skipBlanks = .ok r' := by
  unfold step
  dsimp only
  split
  · next h => split <;> simp [h, Fault.stop, pure, Except.pure]
  · next h => simp [h, bind_eq_ok_iff, pure, Except.pure]
  · next hc h =>
    refine iff_of_false (by simp [Fault.stop]) fun hr => hc ?_
    exact Option.some.inj (h.symm.trans hr.1)

theorem step_eq_none_iff : r.step = .ok none ↔
    r.scanner.skipBlanks.rest = [] ∧ r.stack = [] := by
  unfold step current?
  dsimp only
  cases r.scanner.skipBlanks.rest with
  | nil => cases r.stack <;> simp [Fault.stop, pure, Except.pure]
  | cons c cs =>
    simp only [List.head?_cons]
    split <;> simp_all [bind_eq_ok_iff, Fault.stop, pure, Except.pure]

theorem scriptBody_scriptTerminator_iff {c : Char} {body : List Char} (h : s.current? = some c) :
    s.scriptBody scriptTerminator.toList = (some body, s') ↔
      s.Passes (c :: body ++ scriptTerminator.toList) s' ∧
        IsScriptBody scriptTerminator.toList body := by
  have ht : scriptTerminator.toList = '<' :: "/script>".toList := by decide
  rw [ht]
  exact scriptBody_eq_some_iff (by decide) h

/-! ### Soundness -/

theorem takes_of_enter (hh : Head name items s.rest rest) (he : ending.Precedes rest s'.rest)
    (ht : tag.Holds items) (hn : tag.name = .ofList name)
    (h : r.enter tag s.here ending s' = .ok r') : r.Takes s r' := by
  cases ending with
  | selfClosed =>
    obtain rfl := Except.ok.inj h
    obtain rfl : rest = '/' :: '>' :: s'.rest := he
    rw [attach_eq_gain rfl, OpenFragment.ofTag, OpenFragment.close, ht.attributes, ht.bindings, hn]
    exact .leaf hh
  | opened =>
    obtain ⟨rfl, ds, hd⟩ := he
    unfold enter at h
    dsimp only at h
    split at h
    · next hs =>
      split at h
      · next body s'' hb =>
        obtain rfl := Except.ok.inj h
        obtain ⟨hp, hi⟩ := (scriptBody_scriptTerminator_iff (current?_of_rest hd)).mp hb
        rw [hn] at hs
        obtain rfl : name = scriptTag.toList := by simp [← hs]
        rw [hp.rest, List.append_assoc] at hh
        rw [ht.attributes, ← gain_script]
        exact .script hh hi
      · cases h
    · next hs =>
      split at h
      · cases h
      · obtain rfl := Except.ok.inj h
        rw [OpenFragment.ofTag, ht.attributes, ht.bindings, hn]
        rw [hd, ← rest_skip_one hd] at hh
        exact .opened hh (hn ▸ hs)

theorem head_of_expect (hc : s.current? = some '<')
    (hn : (s.skip 1).skipBlanks.expect .tagName "tag name" = .ok (name, s')) :
    Head name [] s.rest s'.skipBlanks.rest := by
  obtain ⟨w, hw, hp, -⟩ := (s.skip 1).passes_skipBlanks
  obtain ⟨hq, hl⟩ := expect_tagName_eq_ok_iff.mp hn
  obtain ⟨w', hw', hp', -⟩ := s'.passes_skipBlanks
  rw [(passes_of_current? hc).rest, hp.rest, hq.rest, hp'.rest]
  exact .mk hw (hp'.rest ▸ hl) hw' .nil Item.consistent_nil

theorem takes_of_openTag (hc : s.current? = some '<')
    (h : r.openTag (s.skip 1) s.here = .ok r') : r.Takes s r' := by
  obtain ⟨⟨name, s₁⟩, hn, h⟩ := bind_eq_ok_iff.mp h
  obtain ⟨⟨tag, ending, s₂⟩, hi, h⟩ := bind_eq_ok_iff.mp h
  obtain ⟨items, ds, his, he, ht, hm⟩ := Tag.items_of_readItems (Tag.holds_ofName _) hi
  exact takes_of_enter ((head_of_expect hc hn).of_items his ht.consistent) he ht hm h

theorem takes_of_closeTag (hc : s.current? = some '<') (hc' : (s.skip 1).current? = some '/')
    (h : r.closeTag (s.skip 1) place = .ok r') : r.Takes s r' := by
  obtain ⟨⟨name, s₁⟩, hn, h⟩ := bind_eq_ok_iff.mp h
  obtain ⟨hq, hl⟩ := expect_tagName_eq_ok_iff.mp hn
  dsimp only at h
  split at h
  · cases h
  · next top outer hst =>
    split at h
    · cases h
    · next ht =>
      split at h
      · cases h
      · next hg =>
        obtain rfl := Except.ok.inj h
        have hg := passes_of_current? (Classical.not_not.mp hg)
        have hr : s.rest = '<' :: '/' :: (top.name.toList ++ '>' :: (s₁.skip 1).rest) := by
          rw [(passes_of_current? hc).rest, (passes_of_current? hc').rest, hq.rest, hg.rest,
            Classical.not_not.mp ht]
          simp
        simpa [pop, hst] using Takes.closed hst hr

theorem takes_of_readTag (hc : s.current? = some '<') (h : r.readTag s = .ok r') :
    r.Takes s r' := by
  unfold readTag at h
  dsimp only at h
  split at h
  · cases h
  · obtain ⟨⟨text, s'⟩, hx, h⟩ := bind_eq_ok_iff.mp h
    obtain rfl := Except.ok.inj h
    obtain ⟨hp, body, rfl, hb⟩ := expect_comment_eq_ok_iff.mp hx
    rw [← gain_nil]
    exact .comment hb (by rw [(passes_of_current? hc).rest, hp.rest]; rfl)
  · next hc' => exact takes_of_closeTag hc hc' h
  · exact takes_of_openTag hc h

theorem Takes.advances (h : r.Takes s r') : r.Advances s.rest r' := by
  cases h with
  | comment hb hr => exact hr ▸ .node (.comment hb)
  | script hh hb => exact .node (.script hh hb)
  | leaf hh => exact .node (.leaf hh)
  | opened hh hn => exact .opened hh hn
  | closed hst hr => exact hr ▸ .closed hst

/-- Every step takes blanks and then a tag or a comment. -/
theorem takes_of_step (h : r.step = .ok (some r')) :
    ∃ w s, Blanks w ∧ r.scanner.Passes w s ∧ s.current? = some '<' ∧ r.Takes s r' ∧
      s.Ahead 1 r'.scanner := by
  obtain ⟨hc, h⟩ := step_eq_some_iff.mp h
  obtain ⟨w, hw, hp, -⟩ := r.scanner.passes_skipBlanks
  have ha := onward_readTag r r.scanner.skipBlanks
  rw [h] at ha
  exact ⟨w, _, hw, hp, hc, takes_of_readTag hc h, ha⟩

theorem advances_of_step (h : r.step = .ok (some r')) :
    ∃ w cs, Blanks w ∧ r.scanner.rest = w ++ cs ∧ r.Advances cs r' := by
  obtain ⟨w, s, hw, hp, -, ht, -⟩ := takes_of_step h
  exact ⟨w, s.rest, hw, hp.rest, ht.advances⟩

/-! ### Completeness -/

theorem step_eq_readTag (hr : r.scanner.rest = w ++ '<' :: cs) (hw : Blanks w) :
    ∃ s, r.scanner.Passes w s ∧ s.rest = '<' :: cs ∧
      r.step = r.readTag s >>= fun r' => .ok (some r') := by
  obtain ⟨s, hp, hs⟩ := exists_passes hr
  have he := skipBlanks_eq hp hw (hs ▸ solid_cons (by decide))
  refine ⟨s, hp, hs, ?_⟩
  unfold step
  simp only [he, current?_of_rest hs]
  rfl

theorem step_of_readTag (hr : r.scanner.rest = w ++ '<' :: cs) (hw : Blanks w) :
    ∃ s, s.rest = '<' :: cs ∧ ∀ r', r.readTag s = .ok r' → r.step = .ok (some r') := by
  obtain ⟨s, -, hs, h⟩ := step_eq_readTag hr hw
  refine ⟨s, hs, fun r' hr' => ?_⟩
  rw [h, hr']
  rfl

theorem readTag_eq_openTag (hw : Blanks w) (hn : IsTagName name)
    (hs : (s.skip 1).rest = w ++ (name ++ cs)) :
    r.readTag s = r.openTag (s.skip 1) s.here := by
  have hd : ∀ d ds, (s.skip 1).rest = d :: ds → d ≠ '!' ∧ d ≠ '/' := by
    obtain ⟨c, more, rfl, hc, -⟩ := hn
    rw [hs]
    refine hw.head_append (fun d hd => ?_) ?_
    · constructor <;> rintro rfl <;> exact absurd hd (by decide)
    · rintro _ _ ⟨⟩
      constructor <;> rintro rfl <;> exact absurd hc (by decide)
  unfold readTag
  dsimp only
  split
  · next h =>
    obtain ⟨c, more, rfl, -⟩ := hn
    simp [current?, hs] at h
  · next h =>
    obtain ⟨ds, h⟩ := current?_eq_some_iff.mp h
    exact absurd rfl (hd _ _ h).1
  · next h =>
    obtain ⟨ds, h⟩ := current?_eq_some_iff.mp h
    exact absurd rfl (hd _ _ h).2
  · rfl

theorem readTag_of_name (r : Reading) (hh : Head name [] s.rest cs) (hs : Solid cs) :
    ∃ text s', s.Passes text s' ∧ s'.rest = cs ∧ r.readTag s =
      (Tag.ofName (.ofList name)).readItems s' >>= fun x => r.enter x.1 s.here x.2.1 x.2.2 := by
  generalize hr : s.rest = ds at hh
  obtain ⟨hw, hl, hw', hi, -⟩ := hh
  cases hi
  have h₁ := rest_skip_one hr
  obtain ⟨w, -, hp₁, -⟩ := (s.skip 1).passes_skipBlanks
  obtain ⟨s₂, hp₂, h₂⟩ := exists_passes (rest_skipBlanks h₁ hw hl.1.solid_append)
  obtain ⟨w', -, hp₃, -⟩ := s₂.passes_skipBlanks
  have hp := ((passes_of_current? (current?_of_rest hr)).trans hp₁).trans hp₂
  refine ⟨_, _, hp.trans hp₃, rest_skipBlanks h₂ hw' hs, ?_⟩
  have hx : (s.skip 1).skipBlanks.expect .tagName "tag name" = .ok (name, s₂) :=
    expect_tagName_eq_ok_iff.mpr ⟨hp₂, h₂ ▸ hl⟩
  rw [readTag_eq_openTag hw hl.1 h₁, openTag, hx]
  rfl

theorem readTag_of_head (r : Reading) (ending : Tag.Ending)
    (hh : Head name items s.rest cs) (he : ending.Precedes cs rest) :
    ∃ tag s', r.readTag s = r.enter tag s.here ending s' ∧ s'.rest = rest ∧ tag.Holds items ∧
      tag.name = .ofList name := by
  obtain ⟨ds, hh, hi, hc⟩ := hh.exists_items
  obtain ⟨_, s₁, -, h₁, h⟩ := r.readTag_of_name hh (hi.clear he.clear).1
  obtain ⟨tag, s', ht, hr, hh, hn⟩ :=
    Tag.readItems_of_items (Tag.holds_ofName (.ofList name)) (h₁ ▸ hi) he hc
  refine ⟨tag, s', ?_, hr, hh, hn⟩
  rw [h, ht]
  rfl

theorem step_of_comment {body : List Char} (hb : IsCommentBody body) (hw : Blanks w)
    (hr : r.scanner.rest = w ++ '<' :: (commentStart ++ body ++ commentEnd ++ rest)) :
    ∃ s', s'.rest = rest ∧ r.step = .ok (some (r.gain [] [] s')) := by
  obtain ⟨s, hs, h⟩ := step_of_readTag hr hw
  have h₁ := rest_skip_one hs
  obtain ⟨s', hp, hr'⟩ := exists_passes h₁
  refine ⟨s', hr', h _ ?_⟩
  unfold readTag
  simp only [current?_of_rest (c := '!') h₁]
  refine bind_eq_ok_iff.mpr ⟨(_, s'), expect_comment_eq_ok_iff.mpr ⟨hp, body, rfl, hb⟩, ?_⟩
  rw [gain_nil]
  rfl

theorem step_of_script {body : List Char}
    (hh : Head scriptTag.toList items cs ('>' :: (body ++ (scriptTerminator.toList ++ rest))))
    (hb : IsScriptBody scriptTerminator.toList body) (hw : Blanks w)
    (hr : r.scanner.rest = w ++ cs) :
    ∃ s', s'.rest = rest ∧
      r.step = .ok (some (r.gain [⟨.ofList body, Item.attributes items⟩] [] s')) := by
  obtain ⟨ds, rfl⟩ := hh.cons
  obtain ⟨s, hs, h⟩ := step_of_readTag hr hw
  obtain ⟨tag, s₁, ht, h₁, hg, hn⟩ := readTag_of_head r .opened (hs ▸ hh) ⟨rfl, _, rfl⟩
  obtain ⟨s', hp, hr'⟩ := exists_passes (h₁.trans (List.append_assoc ('>' :: body) _ _).symm)
  refine ⟨s', hr', h _ ?_⟩
  have hx := (scriptBody_scriptTerminator_iff (current?_of_rest h₁)).mpr ⟨hp, hb⟩
  rw [ht, enter_of_script _ _ (hn.trans String.ofList_toList), expectScriptBody, hx, gain_script,
    ← hg.attributes]
  rfl

theorem step_of_leaf (hh : Head name items cs ('/' :: '>' :: rest)) (hw : Blanks w)
    (hr : r.scanner.rest = w ++ cs) :
    ∃ s' line column, s'.rest = rest ∧ r.step = .ok (some (r.gain []
      [.mk (.ofList name) (Item.attributes items) (Item.bindings items) [] line column] s')) := by
  obtain ⟨ds, rfl⟩ := hh.cons
  obtain ⟨s, hs, h⟩ := step_of_readTag hr hw
  obtain ⟨tag, s', ht, hr', hg, hn⟩ := readTag_of_head r .selfClosed (hs ▸ hh) rfl
  refine ⟨s', s.here.line, s.here.column, hr', h _ ?_⟩
  rw [ht, enter, ← attach_eq_gain rfl, OpenFragment.ofTag, OpenFragment.close, hg.attributes,
    hg.bindings, hn]
  rfl

theorem step_of_opened (hh : Head name items cs ('>' :: rest))
    (hn : String.ofList name ≠ scriptTag) (hne : rest ≠ []) (hw : Blanks w)
    (hr : r.scanner.rest = w ++ cs) :
    ∃ s' place, s'.rest = rest ∧ r.step = .ok (some (r.push
      ⟨.ofList name, Item.attributes items, Item.bindings items, place, []⟩ s')) := by
  obtain ⟨ds, rfl⟩ := hh.cons
  obtain ⟨s, hs, h⟩ := step_of_readTag hr hw
  obtain ⟨tag, s₁, ht, h₁, hg, hm⟩ := readTag_of_head r .opened (hs ▸ hh) ⟨rfl, _, rfl⟩
  have h₂ := rest_skip_one h₁
  refine ⟨s₁.skip 1, s.here, h₂, h _ ?_⟩
  rw [ht, enter, hm, if_neg hn]
  dsimp only
  rw [if_neg (by simpa [h₂] using hne), OpenFragment.ofTag, hg.attributes, hg.bindings, hm]
  rfl

theorem step_of_closed {top : OpenFragment} {outer : List OpenFragment}
    (ht : r.stack = top :: outer) (hn : IsTagName top.name.toList) (hw : Blanks w)
    (hr : r.scanner.rest = w ++ '<' :: '/' :: (top.name.toList ++ '>' :: rest)) :
    ∃ s', s'.rest = rest ∧ r.step = .ok (some (r.pop s')) := by
  obtain ⟨s, hs, h⟩ := step_of_readTag hr hw
  have h₁ := rest_skip_one hs
  obtain ⟨s₂, hp, h₂⟩ := exists_passes (rest_skip_one h₁)
  refine ⟨s₂.skip 1, rest_skip_one h₂, h _ ?_⟩
  unfold readTag
  simp only [current?_of_rest h₁]
  have hl : Longest IsTagName top.name.toList s₂.rest := by
    refine hn.longest fun c cs hc => ?_
    obtain ⟨rfl, -⟩ := List.cons.inj (h₂.symm.trans hc)
    decide
  refine bind_eq_ok_iff.mpr ⟨(_, s₂), expect_tagName_eq_ok_iff.mpr ⟨hp, hl⟩, ?_⟩
  simp [ht, current?_of_rest h₂, pop, pure, Except.pure]

end Reading

end SceneMarkup
