import SceneMarkup.Proofs.Source.Scanner

/-! # Sources with more behind them

A reader that succeeds does not look past the text that it takes, except for the one character that
ends a name. It therefore succeeds in the same way when the source goes on behind its end.
-/

namespace SceneMarkup

open Token

theorem Token.IsIdentifier.concat {cs : List Char} {c : Char} (h : IsIdentifier cs)
    (hc : isWordChar c) : IsIdentifier (cs ++ [c]) := by
  induction h with
  | word hw =>
    refine .word ⟨by simp, fun d hd => ?_⟩
    rcases List.mem_append.mp hd with hd | hd
    · exact hw.2 d hd
    · exact List.mem_singleton.mp hd ▸ hc
  | dotted hw _ ih =>
    rw [List.append_assoc, List.cons_append]
    exact .dotted hw ih

theorem Token.IsTagName.concat {cs : List Char} {c : Char} (h : IsTagName cs)
    (hc : isWordChar c) : IsTagName (cs ++ [c]) := by
  obtain ⟨d, ds, rfl, hd, hs⟩ := h
  refine ⟨d, ds ++ [c], rfl, hd, fun e he => ?_⟩
  rcases List.mem_append.mp he with he | he
  · exact hs e he
  · exact List.mem_singleton.mp he ▸ hc

namespace Scanner

/-- The scanner when the source goes on behind its end. -/
def extend (t : List Char) (s : Scanner) : Scanner := ⟨s.rest ++ t, s.here⟩

/-- A scanner in front of a character that is no point. -/
def Firm (s : Scanner) : Prop := ∃ c cs, s.rest = c :: cs ∧ c ≠ '.'

variable {t text : List Char} {s s' : Scanner} {label : String} {c : Char}

theorem Firm.ne_nil (h : s.Firm) : s.rest ≠ [] := by
  obtain ⟨c, cs, h, -⟩ := h
  simp [h]

theorem firm_of_current? (h : s.current? = some c) (hc : c ≠ '.') : s.Firm := by
  obtain ⟨cs, h⟩ := current?_eq_some_iff.mp h
  exact ⟨c, cs, h, hc⟩

theorem Firm.of_skipBlanks (h : s.skipBlanks.Firm) : s.Firm := by
  obtain ⟨w, hw, hp, -⟩ := s.passes_skipBlanks
  obtain ⟨c, cs, hc, hd⟩ := h
  have hr := hp.rest
  rw [hc] at hr
  cases w with
  | nil => exact ⟨c, cs, hr, hd⟩
  | cons b w =>
    refine ⟨b, _, hr, ?_⟩
    rintro rfl
    exact absurd (hw '.' (by simp)) (by decide)

theorem Passes.extend (t : List Char) (h : s.Passes text s') :
    (s.extend t).Passes text (s'.extend t) :=
  ⟨by simp [Scanner.extend, h.rest], h.here⟩

theorem current?_extend (t : List Char) (h : s.rest ≠ []) :
    (s.extend t).current? = s.current? := by
  obtain ⟨c, cs, h⟩ := List.exists_cons_of_ne_nil h
  simp [extend, current?, h]

theorem skip_one_extend (t : List Char) (h : s.rest ≠ []) :
    (s.extend t).skip 1 = (s.skip 1).extend t := by
  obtain ⟨c, cs, h⟩ := List.exists_cons_of_ne_nil h
  exact ((passes_of_current? (current?_of_rest h)).extend t).eq_skip.symm

theorem skipBlanks_extend (t : List Char) (h : s.skipBlanks.rest ≠ []) :
    (s.extend t).skipBlanks = s.skipBlanks.extend t := by
  obtain ⟨w, hw, hp, hs⟩ := s.passes_skipBlanks
  obtain ⟨c, cs, hc⟩ := List.exists_cons_of_ne_nil h
  refine skipBlanks_eq (hp.extend t) hw ?_
  rw [extend, hc]
  exact solid_cons (hs c cs hc)

theorem expect_tagName_extend (t : List Char) (h : s.expect .tagName label = .ok (text, s'))
    (hs : s'.rest ≠ []) : (s.extend t).expect .tagName label = .ok (text, s'.extend t) := by
  obtain ⟨hp, hl⟩ := expect_tagName_eq_ok_iff.mp h
  refine expect_tagName_eq_ok_iff.mpr ⟨hp.extend t, hl.1.longest ?_⟩
  obtain ⟨c, cs, hc⟩ := List.exists_cons_of_ne_nil hs
  simp only [extend, hc]
  rintro _ _ ⟨⟩ hw
  exact hl.2 [c] (by simp) (hc ▸ ⟨cs, rfl⟩) (hl.1.concat hw)

theorem expect_identifier_extend (t : List Char)
    (h : s.expect .identifier label = .ok (text, s')) (hs : s'.Firm) :
    (s.extend t).expect .identifier label = .ok (text, s'.extend t) := by
  obtain ⟨hp, hl⟩ := expect_identifier_eq_ok_iff.mp h
  refine expect_identifier_eq_ok_iff.mpr ⟨hp.extend t, hl.1.longest ?_⟩
  obtain ⟨c, cs, hc, hd⟩ := hs
  rw [extend, hc]
  refine stops_cons (fun hw => ?_) hd
  exact hl.2 [c] (by simp) (hc ▸ ⟨cs, rfl⟩) (hl.1.concat hw)

theorem expect_comment_extend (t : List Char) (h : s.expect .comment label = .ok (text, s')) :
    (s.extend t).expect .comment label = .ok (text, s'.extend t) := by
  obtain ⟨hp, hb⟩ := expect_comment_eq_ok_iff.mp h
  exact expect_comment_eq_ok_iff.mpr ⟨hp.extend t, hb⟩

theorem literal_extend (t : List Char) (h : s.literal label = .ok (text, s')) :
    (s.extend t).literal label = .ok (text, s'.extend t) := by
  obtain ⟨quote, hq, hp, ht⟩ := literal_eq_ok_iff.mp h
  exact literal_eq_ok_iff.mpr ⟨quote, hq, hp.extend t, ht⟩

theorem binding_extend (t : List Char) (hc : s.current? = some c)
    (h : s.binding = (some text, s')) : (s.extend t).binding = (some text, s'.extend t) := by
  obtain ⟨hp, hb⟩ := (binding_eq_some_iff hc).mp h
  exact (binding_eq_some_iff (current?_of_rest (hp.extend t).rest)).mpr ⟨hp.extend t, hb⟩

theorem skipBlanks_of_passes {w : List Char} (h : s.Passes w s') (hw : Blanks w) :
    s.skipBlanks = s'.skipBlanks := by
  obtain ⟨w', hw', hp, hs⟩ := s'.passes_skipBlanks
  exact skipBlanks_eq (h.trans hp) (hw.append hw') hs

end Scanner

end SceneMarkup
