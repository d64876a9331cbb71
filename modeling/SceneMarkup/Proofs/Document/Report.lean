import SceneMarkup.Proofs.Document.Explanation
import SceneMarkup.Proofs.Source.Location

/-! # Reports

What a report says is true of the source at the place where it says it: a reading keeps on its
stack the tags that are left open, and whatever stops it has a fault that is true there.
-/

namespace SceneMarkup

open Scanner Token

namespace Reading

variable {source before name cs rest : List Char} {names : List String} {items : List Item}
  {r r' : Reading} {s : Scanner} {tag : Tag} {ending : Tag.Ending} {place : Location} {e : Stop}

theorem explained_of_enter (hp : (Scanner.ofSource source).Passes before s)
    (hi : Inside source tag.name.toList items rest) (he : ending.Precedes rest s.rest)
    (h : r.enter tag place ending s = .error e) : e.Explained source := by
  cases ending with
  | selfClosed => cases h
  | opened =>
    obtain ⟨rfl, ds, hd⟩ := he
    have hc := current?_of_rest hd
    unfold enter at h
    dsimp only at h
    split at h
    · next hn =>
      split at h
      · cases h
      · next s' hb =>
        obtain rfl := Except.error.inj h
        have ht : scriptTerminator.toList = '<' :: "/script>".toList := by decide
        rw [ht] at hb
        obtain ⟨hp', hs', hx⟩ := scriptBody_eq_none (by decide) hc hb
        refine ⟨_, _, _, rfl, hp.trans hp', hs', items, ds, hn ▸ hd ▸ hi, ?_⟩
        rw [ht]
        rintro body rest rfl
        exact hx body rest hd
    · next hn =>
      split at h
      · next hs =>
        obtain rfl := Except.error.inj h
        have hr : (s.skip 1).rest = [] := List.isEmpty_iff.mp hs
        have hds : ds = [] := (rest_skip_one hd).symm.trans hr
        exact ⟨_, _, _, rfl, hp.trans (passes_of_current? hc), hr, hn, items, hds ▸ hd ▸ hi⟩
      · cases h

theorem explained_of_openTag (hp : (Scanner.ofSource source).Passes before s)
    (ho : LeavesOpen source names s.rest) (hc : s.current? = some '<')
    (h : r.openTag (s.skip 1) place = .error e) : e.Explained source := by
  have hs := passes_of_current? hc
  obtain ⟨w, hw, hp₁, hs₁⟩ := (s.skip 1).passes_skipBlanks
  have hp' := (hp.trans hs).trans hp₁
  rcases bind_eq_error_iff.mp h with h | ⟨⟨name, s₂⟩, hn, h⟩
  · have hr : s.rest = '<' :: (w ++ (s.skip 1).skipBlanks.rest) := by
      rw [hs.rest, hp₁.rest]
      rfl
    exact explained_of_expect hp' (.opening (hr ▸ ho) hw hs₁) h
  · obtain ⟨hp₂, -⟩ := expect_tagName_eq_ok_iff.mp hn
    obtain ⟨w', hw', hp₃, hs₃⟩ := s₂.passes_skipBlanks
    have hps := (hp'.trans hp₂).trans hp₃
    have hi : Inside source (Tag.ofName (.ofList name)).name.toList [] s₂.skipBlanks.rest := by
      refine ⟨names, s.rest, ho, ?_⟩
      rw [Tag.ofName, String.toList_ofList]
      exact head_of_expect hc hn
    rcases bind_eq_error_iff.mp h with h | ⟨⟨tag, ending, s₄⟩, hx, h⟩
    · exact Tag.explained_of_readItems hps (Tag.holds_ofName _) hi hs₃ h
    · obtain ⟨items, ds, his, he, ht, hm⟩ := Tag.items_of_readItems (Tag.holds_ofName _) hx
      have hon := Tag.onward_readItems (Tag.ofName (.ofList name)) s₂.skipBlanks
      rw [hx] at hon
      obtain ⟨text, hp₄⟩ := hon.exists_passes
      obtain ⟨names, cs, ho, hh⟩ := hi
      rw [← hm] at hh
      exact explained_of_enter (hps.trans hp₄) ⟨names, cs, ho, hh.of_items his ht.consistent⟩ he h

theorem explained_of_closeTag (hp : (Scanner.ofSource source).Passes before s)
    (ho : LeavesOpen source r.openNames s.rest) (hc : s.current? = some '<')
    (hc' : (s.skip 1).current? = some '/') (h : r.closeTag (s.skip 1) s.here = .error e) :
    e.Explained source := by
  have hs := passes_of_current? hc
  have hs' := passes_of_current? hc'
  have hr : s.rest = '<' :: '/' :: ((s.skip 1).skip 1).rest := by
    rw [hs.rest, hs'.rest]
    rfl
  rcases bind_eq_error_iff.mp h with h | ⟨⟨name, s₂⟩, hn, h⟩
  · exact explained_of_expect ((hp.trans hs).trans hs') (.closing (hr ▸ ho)) h
  · obtain ⟨hp₂, hl⟩ := expect_tagName_eq_ok_iff.mp hn
    have hcl : ClosingTag (.ofList name) s.rest := by
      refine ⟨s₂.rest, ?_, ?_⟩
      · rw [String.toList_ofList, hr, hp₂.rest]
      · rwa [String.toList_ofList]
    have hu : Leaves source r.openNames s.rest := by
      refine ⟨ho, fun names' h' => ?_⟩
      rw [hr] at h' ho
      exact h'.unique ho
    dsimp only at h
    split at h
    · next hst =>
      obtain rfl := Except.error.inj h
      rw [openNames, hst] at hu
      exact ⟨_, _, _, rfl, hp, hu, hcl⟩
    · next top outer hst =>
      rw [openNames, hst] at hu
      split at h
      · next ht =>
        obtain rfl := Except.error.inj h
        exact ⟨_, _, _, rfl, hp, ⟨_, hu⟩, Ne.symm ht, hcl⟩
      · next ht =>
        split at h
        · next hg =>
          obtain rfl := Except.error.inj h
          refine ⟨_, _, _, rfl, ((hp.trans hs).trans hs').trans hp₂, hg,
            .inr ⟨name, outer.map OpenFragment.name, ?_, hl⟩⟩
          rw [← hp₂.rest, ← hr, ← Classical.not_not.mp ht]
          exact hu.1
        · cases h

theorem explained_of_readTag (hp : (Scanner.ofSource source).Passes before s)
    (ho : LeavesOpen source r.openNames s.rest) (hc : s.current? = some '<')
    (h : r.readTag s = .error e) : e.Explained source := by
  have hs := passes_of_current? hc
  unfold readTag at h
  dsimp only at h
  split at h
  · next hc' =>
    obtain rfl := Except.error.inj h
    have hr : (s.skip 1).rest = [] := List.head?_eq_none_iff.mp hc'
    have ho' := hs.rest ▸ ho
    rw [hr] at ho'
    exact ⟨_, _, _, rfl, hp.trans hs, hr, _, ho'⟩
  · next hc' =>
    obtain ⟨ds, hd⟩ := current?_eq_some_iff.mp hc'
    have hw : Wants source (before ++ ['<']) .comment "comment" (s.skip 1).rest := by
      rw [hd]
      exact .comment (hd ▸ hs.rest ▸ ho)
    rcases bind_eq_error_iff.mp h with h | ⟨_, _, h⟩
    · exact explained_of_expect (hp.trans hs) hw h
    · cases h
  · next hc' => exact explained_of_closeTag hp ho hc hc' h
  · exact explained_of_openTag hp ho hc h

theorem explained_of_step (hp : (Scanner.ofSource source).Passes before r.scanner)
    (ho : LeavesOpen source r.openNames r.scanner.rest) (h : r.step = .error e) :
    e.Explained source := by
  obtain ⟨w, hw, hp₁, hs⟩ := r.scanner.passes_skipBlanks
  have hps := hp.trans hp₁
  have hos : LeavesOpen source r.openNames r.scanner.skipBlanks.rest := (hp₁.rest ▸ ho).skip hw
  unfold step at h
  dsimp only at h
  split at h
  · next hc =>
    have hr : r.scanner.skipBlanks.rest = [] := List.head?_eq_none_iff.mp hc
    split at h
    · cases h
    · next top outer hst =>
      obtain rfl := Except.error.inj h
      rw [openNames, hst, hr] at hos
      exact ⟨_, _, _, rfl, hps, hr, _, hos⟩
  · next hc =>
    rcases bind_eq_error_iff.mp h with h | ⟨_, _, h⟩
    · exact explained_of_readTag hps hos hc h
    · cases h
  · next c hne hc =>
    obtain rfl := Except.error.inj h
    refine ⟨_, _, _, rfl, hps, ⟨_, hos⟩, hs, ?_, ?_⟩
    · rintro hr
      simp [current?, hr] at hc
    · intro hl
      exact hne (Option.some.inj (hc.symm.trans hl))

theorem explained_of_run (hp : (Scanner.ofSource source).Passes before r.scanner)
    (ho : LeavesOpen source r.openNames r.scanner.rest) (h : r.run = .error e) :
    e.Explained source := by
  fun_induction run r generalizing before with
  | case1 r f hf =>
    obtain rfl := Except.error.inj h
    exact explained_of_step hp ho hf
  | case2 => cases h
  | case3 r r₁ hs ih =>
    obtain ⟨w, s, hw, hp₁, -, -, ha⟩ := takes_of_step hs
    obtain ⟨text, hp₂⟩ := ha.exists_passes
    exact ih ((hp.trans hp₁).trans hp₂) (leavesOpen_step ho hs) h

end Reading

namespace Document

variable {source : String} {path : Option String} {e : Diagnosis}

/-- A report is that of a fault which is true of the source at the offset of the report. -/
theorem parse_explained (h : parse source path = .error e) :
    ∃ (fault : Fault) (before after : List Char),
    source.toList = before ++ after ∧ e.offset = before.length ∧
    e.reason = fault.reason ∧ e.message = fault.message ∧ e.label = fault.label? ∧
    fault.TrueOf source.toList before after := by
  obtain ⟨f, hr, rfl⟩ := parse_eq_error_iff.mp h
  have hp : (Scanner.ofSource source.toList).Passes [] (Reading.ofSource source.toList).scanner :=
    ⟨rfl, rfl⟩
  have ho : LeavesOpen source.toList [] source.toList :=
    .start (List.nil_append _).symm (by simp [Blanks])
  obtain ⟨fault, before, s, hf, hp, ht⟩ := Reading.explained_of_run hp ho hr
  obtain rfl := Stop.failure.inj hf
  refine ⟨fault, before, s.rest, hp.rest, ?_, rfl, rfl, rfl, ht⟩
  have hh : s.here = Location.start.pass before := hp.here
  simp only [Diagnosis.ofFailure, Diagnosis.report, hh, Location.offset_start_pass]

/-- A closing tag is refused where the tag that is open innermost has another name. -/
theorem parse_explained_mismatched : ∃ e names name,
    parse "<a></b>" none = .error e ∧ e.reason = .mismatchedClosingTag ∧ e.offset = 3 ∧
    Leaves "<a></b>".toList names "</b>".toList ∧ names.head? ≠ some name ∧
    ClosingTag name "</b>".toList := by
  have h : parse "<a></b>" none = .error (.ofFailure "<a></b>".toList none
      ⟨.closingOther "b" "a", 3, 1, 4, Nat.one_pos, Nat.succ_pos 3⟩) := by with_unfolding_all rfl
  obtain ⟨fault, before, after, hs, ho, hf, -, -, ht⟩ := parse_explained h
  have hl : before.length = 3 := Int.ofNat.inj ho.symm
  obtain rfl : after = "</b>".toList := by
    have := congrArg (List.drop 3) hs
    rw [← hl, List.drop_left, hl] at this
    exact this.symm
  cases fault with
  | closingUnopened name => exact ⟨_, [], name, h, rfl, rfl, ht.1, by simp, ht.2⟩
  | closingOther name innermost =>
    obtain ⟨⟨outer, hu⟩, hne, hc⟩ := ht
    exact ⟨_, _, name, h, rfl, rfl, hu, by simpa using hne.symm, hc⟩
  | _ => cases hf

end Document

end SceneMarkup
