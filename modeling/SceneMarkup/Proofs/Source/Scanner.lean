import SceneMarkup.Proofs.Source.Quoting
import SceneMarkup.Proofs.Source.Token

/-! # What scanners pass

A scanner that takes a token passes over a text of the token's language, and every scanner in
front of such a text takes it. The same holds for blanks, literals, bindings and script bodies.
-/

namespace SceneMarkup

theorem bind_eq_ok_iff {ε α β : Type} {x : Except ε α} {f : α → Except ε β} {b : β} :
    x >>= f = .ok b ↔ ∃ a, x = .ok a ∧ f a = .ok b := by
  cases x <;> simp [bind, Except.bind]

theorem bind_pair_eq_ok_iff {ε α β : Type} {x : Except ε α} {a : α} {b b' : β} :
    (x >>= fun a => pure (a, b)) = .ok (a, b') ↔ x = .ok a ∧ b = b' := by
  cases x <;> simp [bind, Except.bind, pure, Except.pure]

/-- A text that does not begin with a blank. -/
def Solid (cs : List Char) : Prop := ∀ c rest, cs = c :: rest → Text.isBlank c = false

theorem solid_cons {c : Char} {cs : List Char} (h : Text.isBlank c = false) : Solid (c :: cs) := by
  rintro _ _ ⟨⟩
  exact h

theorem Blanks.append {cs ds : List Char} (h : Blanks cs) (h' : Blanks ds) : Blanks (cs ++ ds) :=
  fun c hc => (List.mem_append.mp hc).elim (h c) (h' c)

theorem Blanks.eq_of_append_eq {w w' cs cs' : List Char} (hw : Blanks w) (hw' : Blanks w')
    (hs : Solid cs) (hs' : Solid cs') (he : w ++ cs = w' ++ cs') : w = w' ∧ cs = cs' := by
  rcases List.append_eq_append_iff.mp he with ⟨more, rfl, rfl⟩ | ⟨more, rfl, rfl⟩
  · cases more with
    | nil => simp
    | cons c more => simpa [hs c _ rfl] using hw' c (by simp)
  · cases more with
    | nil => simp
    | cons c more => simpa [hs' c _ rfl] using hw c (by simp)

namespace Scanner

/-- The second scanner is the first behind a text. -/
structure Passes (s : Scanner) (text : List Char) (s' : Scanner) : Prop where
  rest : s.rest = text ++ s'.rest
  here : s'.here = s.here.pass text

variable {s s' s'' : Scanner} {t : Token} {c quote : Char} {cs text text' rest : List Char}
  {label : String}

theorem Passes.trans (h : s.Passes text s') (h' : s'.Passes text' s'') :
    s.Passes (text ++ text') s'' :=
  ⟨by rw [h.rest, h'.rest, List.append_assoc], by rw [h'.here, h.here, Location.pass_append]⟩

theorem Passes.eq_skip (h : s.Passes text s') : s' = s.skip text.length := by
  rw [skip, h.rest, List.drop_left, List.take_left, ← h.here]

theorem passes_take (s : Scanner) (n : Nat) : s.Passes (s.rest.take n) (s.skip n) :=
  ⟨(List.take_append_drop n s.rest).symm, rfl⟩

theorem Ahead.exists_passes {k : Nat} (h : s.Ahead k s') : ∃ text, s.Passes text s' := by
  obtain ⟨n, -, rfl⟩ := h
  exact ⟨_, passes_take s n⟩

theorem passes_skip (h : s.rest = text ++ rest) : s.Passes text (s.skip text.length) := by
  constructor <;> simp [skip, h]

theorem skip_rest (h : s.rest = text ++ rest) : (s.skip text.length).rest = rest := by
  simp [skip, h]

theorem rest_skip_one (h : s.rest = c :: rest) : (s.skip 1).rest = rest :=
  skip_rest (show s.rest = [c] ++ rest from h)

theorem exists_passes (h : s.rest = text ++ rest) : ∃ s', s.Passes text s' ∧ s'.rest = rest :=
  ⟨_, passes_skip h, skip_rest h⟩

theorem Passes.of_append (h : s.Passes text s') (h' : s.Passes (text ++ text') s'') :
    s'.Passes text' s'' := by
  have hr := h.rest.symm.trans h'.rest
  rw [List.append_assoc, List.append_cancel_left_eq] at hr
  exact ⟨hr, by rw [h'.here, h.here, Location.pass_append]⟩

theorem current?_eq_some_iff : s.current? = some c ↔ ∃ rest, s.rest = c :: rest := by
  unfold current?
  cases s.rest <;> simp

theorem current?_of_rest (h : s.rest = c :: rest) : s.current? = some c :=
  current?_eq_some_iff.mpr ⟨rest, h⟩

theorem passes_of_current? (h : s.current? = some c) : s.Passes [c] (s.skip 1) := by
  obtain ⟨rest, h⟩ := current?_eq_some_iff.mp h
  exact passes_skip (show s.rest = [c] ++ rest from h)

/-! ### Blanks -/

theorem passes_skipBlanks (s : Scanner) :
    ∃ w, Blanks w ∧ s.Passes w s.skipBlanks ∧ Solid s.skipBlanks.rest := by
  have hs : s.rest = s.rest.takeWhile Text.isBlank ++ s.rest.dropWhile Text.isBlank := by simp
  refine ⟨_, fun c hc => List.mem_takeWhile_imp hc, passes_skip hs, fun c rest h => ?_⟩
  rw [skipBlanks, skip_rest hs] at h
  simpa [h] using List.head?_dropWhile_not Text.isBlank s.rest

theorem skipBlanks_eq {w : List Char} (h : s.Passes w s') (hw : Blanks w) (hs : Solid s'.rest) :
    s.skipBlanks = s' := by
  obtain ⟨w', hw', h', hs'⟩ := s.passes_skipBlanks
  obtain ⟨rfl, -⟩ := hw.eq_of_append_eq hw' hs hs' (h.rest.symm.trans h'.rest)
  rw [h.eq_skip, h'.eq_skip]

theorem rest_skipBlanks {w : List Char} (h : s.rest = w ++ cs) (hw : Blanks w) (hs : Solid cs) :
    s.skipBlanks.rest = cs := by
  obtain ⟨s', hp, rfl⟩ := exists_passes h
  rw [skipBlanks_eq hp hw hs]

/-! ### Tokens -/

theorem expect_eq_ok_iff : s.expect t label = .ok (text, s') ↔
    ∃ n, t.extent? s.rest = some n ∧ text = s.rest.take n ∧ s' = s.skip n := by
  cases h : t.extent? s.rest with
  | none => simp [expect_of_none label h, Fault.stop]
  | some n => simp [expect_of_some label h, eq_comm]

theorem expect_eq_ok_of_extent {L : List Char → List Char → Prop}
    (hL : ∀ n, t.extent? s.rest = some n ↔
      ∃ text rest, s.rest = text ++ rest ∧ text.length = n ∧ L text rest) :
    s.expect t label = .ok (text, s') ↔ s.Passes text s' ∧ L text s'.rest := by
  rw [expect_eq_ok_iff]
  constructor
  · rintro ⟨n, hn, rfl, rfl⟩
    obtain ⟨text, rest, hr, rfl, hl⟩ := (hL n).mp hn
    rw [hr, List.take_left, skip_rest hr]
    exact ⟨passes_skip hr, hl⟩
  · rintro ⟨h, hl⟩
    refine ⟨text.length, (hL _).mpr ⟨text, s'.rest, h.rest, rfl, hl⟩, ?_, h.eq_skip⟩
    rw [h.rest, List.take_left]

theorem expect_tagName_eq_ok_iff : s.expect .tagName label = .ok (text, s') ↔
    s.Passes text s' ∧ Longest Token.IsTagName text s'.rest :=
  expect_eq_ok_of_extent fun _ => Token.extent?_tagName_eq_some_iff

theorem expect_identifier_eq_ok_iff : s.expect .identifier label = .ok (text, s') ↔
    s.Passes text s' ∧ Longest Token.IsIdentifier text s'.rest :=
  expect_eq_ok_of_extent fun _ => Token.extent?_identifier_eq_some_iff

theorem expect_comment_eq_ok_iff : s.expect .comment label = .ok (text, s') ↔
    s.Passes text s' ∧ ∃ body, text = Token.commentStart ++ body ++ Token.commentEnd ∧
      Token.IsCommentBody body :=
  expect_eq_ok_of_extent (L := fun text _ => ∃ _, text = _ ∧ _)
    fun _ => Token.extent?_comment_eq_some_iff

/-! ### Literals and raw code -/

theorem literal_eq_ok_of_ofQuote? (hc : s.current? = some quote)
    (ht : Token.ofQuote? quote = some t) : s.literal label = .ok (text, s') ↔
      ∃ text', (s.skip 1).expect t label = .ok (text', s') ∧ text = text'.dropLast := by
  rw [literal_of_ofQuote? label hc ht, bind_eq_ok_iff]
  simp [Prod.ext_iff, eq_comm, and_comm]

theorem literal_eq_ok_iff : s.literal label = .ok (text, s') ↔
    ∃ quote, isQuote quote ∧ s.Passes (quote :: text ++ [quote]) s' ∧
      Token.IsLiteral quote text := by
  constructor
  · intro h
    obtain ⟨quote, hc, t, ht⟩ : ∃ quote, s.current? = some quote ∧
        ∃ t, Token.ofQuote? quote = some t := by
      unfold literal at h
      split at h
      · next ht =>
        obtain ⟨quote, hc, ht⟩ := Option.bind_eq_some_iff.mp ht
        exact ⟨quote, hc, _, ht⟩
      · cases h
    obtain ⟨text', hx, rfl⟩ := (literal_eq_ok_of_ofQuote? hc ht).mp h
    obtain ⟨hp, body, rfl, hb⟩ := (expect_eq_ok_of_extent
      (L := fun text _ => ∃ body, text = body ++ [quote] ∧ Token.IsLiteral quote body)
      fun _ => Token.extent?_ofQuote?_eq_some_iff ht).mp hx
    rw [List.dropLast_concat]
    exact ⟨quote, Token.isQuote_of_ofQuote? ht, (passes_of_current? hc).trans hp, hb⟩
  · rintro ⟨quote, hq, hp, hb⟩
    obtain ⟨t, ht⟩ := Token.exists_ofQuote? hq
    have hc : s.current? = some quote := current?_eq_some_iff.mpr ⟨_, hp.rest⟩
    refine (literal_eq_ok_of_ofQuote? hc ht).mpr ⟨text ++ [quote], ?_, List.dropLast_concat.symm⟩
    exact (expect_eq_ok_of_extent
      (L := fun text _ => ∃ body, text = body ++ [quote] ∧ Token.IsLiteral quote body)
      fun _ => Token.extent?_ofQuote?_eq_some_iff ht).mpr
        ⟨(passes_of_current? hc).of_append hp, text, rfl, hb⟩

theorem scan_eq_some_iff (extent? : Option Nat) (stop : List Char) (P : List Char → Prop) :
    (∀ n, extent? = some n ↔
      ∃ body tail, s.rest = body ++ (stop ++ tail) ∧ n = body.length ∧ P body) →
    ((match extent? with
      | some n => (some (s.rest.take n), s.skip (n + stop.length))
      | none => (none, s.atEnd)) = (some text, s') ↔ s.Passes (text ++ stop) s' ∧ P text) := by
  intro he
  constructor
  · intro h
    split at h
    · next n =>
      obtain ⟨body, tail, hr, rfl, hb⟩ := (he n).mp rfl
      obtain ⟨h₁, rfl⟩ := Prod.mk.inj h
      rw [hr, List.take_left, Option.some.injEq] at h₁
      subst h₁
      rw [← List.append_assoc] at hr
      exact ⟨List.length_append ▸ passes_skip hr, hb⟩
    · cases h
  · rintro ⟨hp, hb⟩
    have hr := hp.rest
    rw [List.append_assoc] at hr
    rw [(he _).mpr ⟨text, s'.rest, hr, rfl, hb⟩, hp.eq_skip, List.length_append]
    simp only [hr, List.take_left]

theorem passes_cons_iff (h : s.current? = some c) :
    s.Passes (c :: text) s' ↔ (s.skip 1).Passes text s' :=
  ⟨fun hp => (passes_of_current? h).of_append hp, fun hp => (passes_of_current? h).trans hp⟩

theorem binding_eq_some_iff (h : s.current? = some c) : s.binding = (some text, s') ↔
    s.Passes (c :: text ++ ['}']) s' ∧ IsBinding text := by
  rw [List.cons_append, passes_cons_iff h]
  refine scan_eq_some_iff _ ['}'] IsBinding fun n => ?_
  simp only [bindingExtent?_eq_some_iff, Nat.zero_add]
  rfl

theorem scriptBody_eq_some_iff {a : Char} (ha : a ∉ cs) (h : s.current? = some c) :
    s.scriptBody (a :: cs) = (some text, s') ↔
      s.Passes (c :: text ++ (a :: cs)) s' ∧ IsScriptBody (a :: cs) text := by
  rw [List.cons_append, passes_cons_iff h]
  refine scan_eq_some_iff _ (a :: cs) (IsScriptBody (a :: cs)) fun n => ?_
  simp only [scriptExtent?_eq_some_iff ha, Nat.zero_add]
  rfl

end Scanner

end SceneMarkup
