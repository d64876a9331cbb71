import SceneMarkup.Proofs.Document.Advance
import SceneMarkup.Proofs.Source.Extension

/-! # Documents with more behind them

A tag and a whole document are complete where they end: what comes behind them does not change how
they are read.
-/

namespace SceneMarkup

open Scanner Token

namespace Tag

variable {tag tag' : Tag} {s s' : Scanner} {name : String} {place : Location} {ending : Ending}
  {st : Step} (t : List Char)

theorem readShorthand_extend (h : tag.readShorthand s = .ok (tag', s')) (hs : s'.rest ≠ [])
    (hc : s.current? = some '{') : tag.readShorthand (s.extend t) = .ok (tag', s'.extend t) := by
  obtain ⟨⟨name, s₁⟩, hn, h⟩ := bind_eq_ok_iff.mp h
  obtain ⟨hp, hl⟩ := expect_identifier_eq_ok_iff.mp hn
  have h₀ : s.rest ≠ [] := (firm_of_current? hc (by decide)).ne_nil
  have h₁ : (s.skip 1).skipBlanks.rest ≠ [] := by simp [hp.rest, hl.1.ne_nil]
  dsimp only at h
  split at h
  · next he =>
    obtain ⟨ht, rfl⟩ := bind_pair_eq_ok_iff.mp h
    have h₂ : s₁.skipBlanks.Firm := firm_of_current? he (by decide)
    rw [readShorthand, skip_one_extend t h₀, skipBlanks_extend t h₁]
    refine bind_eq_ok_iff.mpr ⟨_, expect_identifier_extend t hn h₂.of_skipBlanks, ?_⟩
    dsimp only
    rw [skipBlanks_extend t h₂.ne_nil, current?_extend t h₂.ne_nil, if_pos he,
      skip_one_extend t h₂.ne_nil, skipBlanks_extend t hs]
    exact bind_pair_eq_ok_iff.mpr ⟨ht, rfl⟩
  · cases h

theorem readValue_extend (h : tag.readValue name place s = .ok (tag', s')) :
    tag.readValue name place (s.extend t) = .ok (tag', s'.extend t) := by
  unfold readValue at h
  split at h
  · next hc =>
    split at h
    · next source s₁ hb =>
      rw [readValue, current?_extend t (firm_of_current? hc (by decide)).ne_nil, hc]
      simp only [binding_extend t hc hb]
      obtain ⟨ht, rfl⟩ := bind_pair_eq_ok_iff.mp h
      exact bind_pair_eq_ok_iff.mpr ⟨ht, rfl⟩
    · cases h
  · cases h
  · next c hb ht hc =>
    split at h
    · next hq =>
      obtain ⟨⟨text, s₁⟩, hl, h⟩ := bind_eq_ok_iff.mp h
      obtain ⟨ht, rfl⟩ := bind_pair_eq_ok_iff.mp h
      obtain ⟨cs, hr⟩ := current?_eq_some_iff.mp hc
      have hc' : (s.extend t).current? = some c :=
        (current?_extend t (by simp [hr])).trans hc
      rw [readValue_of_isQuote hc' hq]
      refine bind_eq_ok_iff.mpr ⟨_, literal_extend t hl, ?_⟩
      exact bind_pair_eq_ok_iff.mpr ⟨ht, rfl⟩
    · cases h
  · cases h

theorem readNamed_extend (h : tag.readNamed s = .ok (tag', s')) (hs : s'.Firm) :
    tag.readNamed (s.extend t) = .ok (tag', s'.extend t) := by
  obtain ⟨⟨name, s₁⟩, hn, h⟩ := bind_eq_ok_iff.mp h
  dsimp only at h
  split at h
  · next he =>
    obtain ⟨⟨tag'', s₂⟩, hv, h⟩ := bind_eq_ok_iff.mp h
    obtain ⟨rfl, rfl⟩ := Prod.mk.inj (Except.ok.inj h)
    have h₁ : s₁.Firm := firm_of_current? he (by decide)
    refine bind_eq_ok_iff.mpr ⟨_, expect_identifier_extend t hn h₁, ?_⟩
    dsimp only
    rw [current?_extend t h₁.ne_nil, if_pos he, skip_one_extend t h₁.ne_nil]
    refine bind_eq_ok_iff.mpr ⟨_, readValue_extend t hv, ?_⟩
    dsimp only
    rw [skipBlanks_extend t hs.ne_nil]
    rfl
  · next he =>
    -- Nothing but blanks follows a bare name, so what stands behind them settles where it ends.
    obtain ⟨ht, rfl⟩ := bind_pair_eq_ok_iff.mp h
    refine bind_eq_ok_iff.mpr ⟨_, expect_identifier_extend t hn hs.of_skipBlanks, ?_⟩
    dsimp only
    rw [current?_extend t hs.of_skipBlanks.ne_nil, if_neg he, skipBlanks_extend t hs.ne_nil]
    exact bind_pair_eq_ok_iff.mpr ⟨ht, rfl⟩

theorem firm_of_step (h : tag.step s = .ok st) : s.Firm := by
  unfold step at h
  split at h
  · cases h
  · next hc => exact firm_of_current? hc (by decide)
  · next hc => exact firm_of_current? hc (by decide)
  · next hc => exact firm_of_current? hc (by decide)
  · obtain ⟨_, h, -⟩ := bind_eq_ok_iff.mp h
    obtain ⟨⟨name, s₁⟩, hn, -⟩ := bind_eq_ok_iff.mp h
    obtain ⟨hp, hl⟩ := expect_identifier_eq_ok_iff.mp hn
    obtain ⟨c, cs, hc, hw⟩ := hl.1.head_append s₁.rest
    refine ⟨c, cs, hp.rest.trans hc, ?_⟩
    rintro rfl
    cases hw

def Step.extend (t : List Char) : Step → Step
  | item tag s => .item tag (s.extend t)
  | selfClosed s => .selfClosed (s.extend t)
  | opened s => .opened (s.extend t)

theorem step_extend (h : tag.step s = .ok st) (hs : ∀ tag' s', st = .item tag' s' → s'.Firm) :
    tag.step (s.extend t) = .ok (st.extend t) := by
  have h₀ := (firm_of_step h).ne_nil
  unfold step at h ⊢
  rw [current?_extend t h₀]
  split at h
  · cases h
  · dsimp only at h ⊢
    split at h
    · next he =>
      obtain rfl := Except.ok.inj h
      have h₁ : (s.skip 1).rest ≠ [] := (firm_of_current? he (by decide)).ne_nil
      simp only [skip_one_extend t h₀, current?_extend t h₁, skip_one_extend t h₁, if_pos he]
      rfl
    · cases h
  · obtain rfl := Except.ok.inj h
    rfl
  · next hc =>
    obtain ⟨⟨tag', s'⟩, hr, h⟩ := bind_eq_ok_iff.mp h
    obtain rfl := Except.ok.inj h
    have := readShorthand_extend t hr (hs _ _ rfl).ne_nil hc
    exact bind_eq_ok_iff.mpr ⟨_, this, rfl⟩
  · obtain ⟨⟨tag', s'⟩, hr, h⟩ := bind_eq_ok_iff.mp h
    obtain rfl := Except.ok.inj h
    exact bind_eq_ok_iff.mpr ⟨_, readNamed_extend t hr (hs _ _ rfl), rfl⟩

theorem firm_of_readItems (h : tag.readItems s = .ok (tag', ending, s')) : s.Firm := by
  rw [readItems_eq] at h
  obtain ⟨st, h, -⟩ := bind_eq_ok_iff.mp h
  exact firm_of_step h

theorem ne_nil_of_readItems_opened (h : tag.readItems s = .ok (tag', .opened, s')) :
    s'.rest ≠ [] := by
  fun_induction readItems tag s with
  | case1 | case2 => cases h
  | case3 tag s s₁ hs =>
    cases h
    obtain ⟨-, cs, hc⟩ := precedes_of_step_opened hs
    simp [hc]
  | case4 tag s tag₁ s₁ hs ih => exact ih h

theorem readItems_extend (h : tag.readItems s = .ok (tag', ending, s')) :
    tag.readItems (s.extend t) = .ok (tag', ending, s'.extend t) := by
  fun_induction readItems tag s with
  | case1 => cases h
  | case2 tag s s₁ hs | case3 tag s s₁ hs =>
    cases h
    rw [readItems_eq, step_extend t hs fun _ _ h => by cases h]
    rfl
  | case4 tag s tag₁ s₁ hs ih =>
    rw [readItems_eq, step_extend t hs]
    · exact ih h
    · rintro _ _ ⟨⟩
      exact firm_of_readItems h

end Tag

namespace Reading

def extend (t : List Char) (r : Reading) : Reading := { r with scanner := r.scanner.extend t }

variable {r r' : Reading} {s s' : Scanner} {place : Location} {tag : Tag} {ending : Tag.Ending}
  (t : List Char)

theorem attach_extend (f : Fragment) (s : Scanner) :
    { (r.extend t).attach f with scanner := s.extend t } =
      extend t { r.attach f with scanner := s } := by
  obtain ⟨_, _, _, _ | ⟨top, outer⟩, _⟩ := r <;> rfl

theorem closeTag_extend (h : r.closeTag s place = .ok r') (hs : s.rest ≠ []) :
    (r.extend t).closeTag (s.extend t) place = .ok (r'.extend t) := by
  obtain ⟨⟨name, s₁⟩, hn, h⟩ := bind_eq_ok_iff.mp h
  dsimp only at h
  split at h
  · cases h
  · next top outer hst =>
    split at h
    · cases h
    · next hm =>
      split at h
      · cases h
      · next hg =>
        obtain rfl := Except.ok.inj h
        have h₁ := (firm_of_current? (Classical.not_not.mp hg) (by decide)).ne_nil
        rw [closeTag, skip_one_extend t hs]
        refine bind_eq_ok_iff.mpr ⟨_, expect_tagName_extend t hn h₁, ?_⟩
        have hst' : (r.extend t).stack = top :: outer := hst
        simp only [hst', if_neg hm, current?_extend t h₁, if_neg hg, skip_one_extend t h₁]
        exact congrArg Except.ok (attach_extend t (r := { r with stack := outer }) _ _)

theorem enter_extend (h : r.enter tag place ending s = .ok r')
    (hs : ending = .opened → s.rest ≠ []) :
    (r.extend t).enter tag place ending (s.extend t) = .ok (r'.extend t) := by
  cases ending with
  | selfClosed =>
    obtain rfl := Except.ok.inj h
    exact congrArg Except.ok (attach_extend t _ _)
  | opened =>
    have hs := hs rfl
    obtain ⟨c, cs, hc⟩ := List.exists_cons_of_ne_nil hs
    unfold enter at h ⊢
    dsimp only at h ⊢
    split at h
    · next hn =>
      rw [if_pos hn]
      split at h
      · next body s₁ hb =>
        obtain rfl := Except.ok.inj h
        obtain ⟨hp, hi⟩ := (scriptBody_scriptTerminator_iff (current?_of_rest hc)).mp hb
        rw [(scriptBody_scriptTerminator_iff (current?_of_rest (hp.extend t).rest)).mpr
          ⟨hp.extend t, hi⟩]
        rfl
      · cases h
    · next hn =>
      rw [if_neg hn, skip_one_extend t hs]
      split at h
      · cases h
      · next he =>
        obtain rfl := Except.ok.inj h
        rw [if_neg (by simp_all [Scanner.extend])]
        rfl

theorem openTag_extend (h : r.openTag s place = .ok r') :
    (r.extend t).openTag (s.extend t) place = .ok (r'.extend t) := by
  obtain ⟨⟨name, s₁⟩, hn, h⟩ := bind_eq_ok_iff.mp h
  obtain ⟨⟨tag, ending, s₂⟩, hi, h⟩ := bind_eq_ok_iff.mp h
  obtain ⟨hp, hl⟩ := expect_tagName_eq_ok_iff.mp hn
  have h₀ : s.skipBlanks.rest ≠ [] := by
    obtain ⟨c, cs, rfl, -⟩ := hl.1
    simp [hp.rest]
  have h₁ : s₁.skipBlanks.Firm := Tag.firm_of_readItems hi
  rw [openTag, skipBlanks_extend t h₀]
  refine bind_eq_ok_iff.mpr ⟨_, expect_tagName_extend t hn h₁.of_skipBlanks.ne_nil, ?_⟩
  dsimp only
  rw [skipBlanks_extend t h₁.ne_nil]
  refine bind_eq_ok_iff.mpr ⟨_, Tag.readItems_extend t hi, enter_extend t h ?_⟩
  rintro rfl
  exact Tag.ne_nil_of_readItems_opened hi

theorem readTag_extend (h : r.readTag s = .ok r') (hs : s.rest ≠ []) :
    (r.extend t).readTag (s.extend t) = .ok (r'.extend t) := by
  unfold readTag at h ⊢
  dsimp only at h ⊢
  rw [skip_one_extend t hs]
  by_cases h₁ : (s.skip 1).rest = []
  · simp [current?, h₁, Fault.stop] at h
  · rw [current?_extend t h₁]
    split at h
    · cases h
    · obtain ⟨⟨text, s₁⟩, hx, h⟩ := bind_eq_ok_iff.mp h
      obtain rfl := Except.ok.inj h
      exact bind_eq_ok_iff.mpr ⟨_, expect_comment_extend t hx, rfl⟩
    · exact closeTag_extend t h h₁
    · exact openTag_extend t h

/-- A step that is taken is also taken when the source goes on behind its end. -/
theorem step_extend (h : r.step = .ok (some r')) :
    (r.extend t).step = .ok (some (r'.extend t)) := by
  obtain ⟨hc, h⟩ := step_eq_some_iff.mp h
  have hs := (firm_of_current? hc (by decide)).ne_nil
  have hb : (r.extend t).scanner.skipBlanks = r.scanner.skipBlanks.extend t :=
    skipBlanks_extend t hs
  refine step_eq_some_iff.mpr ⟨?_, ?_⟩
  · rw [hb, current?_extend t hs, hc]
  · rw [hb]
    exact readTag_extend t h hs

theorem run_extend (h : r.run = .ok r') :
    (r.extend t).run = (r'.extend t).run ∧ r'.step = .ok none := by
  fun_induction run r with
  | case1 => cases h
  | case2 r hs =>
    obtain rfl := Except.ok.inj h
    exact ⟨rfl, hs⟩
  | case3 r r₁ hs ih =>
    rw [run_eq, step_extend t hs]
    exact ih h

end Reading

end SceneMarkup
