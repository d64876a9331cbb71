import Mathlib.Data.List.TakeWhile
import Mathlib.Tactic.Common
import SceneMarkup.Source.Capture

/-! # The languages of the tokens

A tag name or an identifier is the longest text of its language at the head of a source. The body
of a literal or of a comment is the text before the place where it ends. Each extent is the length
of such a text, and there is no extent when no such text begins here.
-/

namespace SceneMarkup

/-- A run of blank characters. -/
def Blanks (cs : List Char) : Prop := ∀ c ∈ cs, Text.isBlank c

/-- A text of a language, in front of a rest with which it cannot be made longer. -/
def Longest (P : List Char → Prop) (text rest : List Char) : Prop :=
  P text ∧ ∀ more, more ≠ [] → more <+: rest → ¬ P (text ++ more)

namespace Token

def IsWord (cs : List Char) : Prop := cs ≠ [] ∧ ∀ c ∈ cs, isWordChar c

def IsTagName (cs : List Char) : Prop :=
  ∃ c rest, cs = c :: rest ∧ c.isAlpha ∧ ∀ d ∈ rest, isWordChar d

inductive IsIdentifier : List Char → Prop where
  | word {cs : List Char} : IsWord cs → IsIdentifier cs
  | dotted {cs ds : List Char} : IsWord cs → IsIdentifier ds → IsIdentifier (cs ++ '.' :: ds)

/-- The body of a literal: no quote of its kind and no backslash, except that a backslash takes
any character along. -/
inductive IsLiteral (quote : Char) : List Char → Prop where
  | nil : IsLiteral quote []
  | plain {c : Char} {cs : List Char} : c ≠ quote → c ≠ '\\' → IsLiteral quote cs →
      IsLiteral quote (c :: cs)
  | escaped {c : Char} {cs : List Char} : IsLiteral quote cs → IsLiteral quote ('\\' :: c :: cs)

def commentEnd : List Char := ['-', '-', '>']

/-- The body of a comment: with the end behind it, the end stands nowhere before. -/
def IsCommentBody (cs : List Char) : Prop :=
  ∀ before after, cs ++ commentEnd = before ++ commentEnd ++ after → after = []

end Token

namespace Longest

variable {P : List Char → Prop} {text text' rest rest' : List Char}

theorem eq_of_append_eq (h : Longest P text rest) (h' : Longest P text' rest')
    (he : text ++ rest = text' ++ rest') : text = text' ∧ rest = rest' := by
  rcases List.append_eq_append_iff.mp he with ⟨more, rfl, rfl⟩ | ⟨more, rfl, rfl⟩
  · by_cases hm : more = []
    · simp [hm]
    · exact absurd h'.1 (h.2 more hm (List.prefix_append ..))
  · by_cases hm : more = []
    · simp [hm]
    · exact absurd h.1 (h'.2 more hm (List.prefix_append ..))

/-- A text is longest when none of its extensions by the head of the rest begins a longer one. -/
theorem of_head (h : P text)
    (hr : ∀ c cs, rest = c :: cs → ∀ more, more <+: cs → ¬ P (text ++ c :: more)) :
    Longest P text rest := by
  refine ⟨h, ?_⟩
  rintro (_ | ⟨c, more⟩) hm ⟨cs, rfl⟩
  · exact absurd rfl hm
  · exact hr c _ rfl more (List.prefix_append ..)

end Longest

namespace Token

/-- An extent that always finds a longest text, and fails only without any, is exact. -/
theorem extent?_eq_some_iff {t : Token} {P : List Char → Prop} {cs : List Char}
    (hs : ∀ n, t.extent? cs = some n →
      ∃ text rest, cs = text ++ rest ∧ text.length = n ∧ Longest P text rest)
    (hn : t.extent? cs = none → ∀ text, text <+: cs → ¬ P text) {n : Nat} :
    t.extent? cs = some n ↔
      ∃ text rest, cs = text ++ rest ∧ text.length = n ∧ Longest P text rest := by
  refine ⟨hs n, ?_⟩
  rintro ⟨text, rest, rfl, rfl, h⟩
  cases he : t.extent? (text ++ rest) with
  | none => exact absurd h.1 (hn he text (List.prefix_append ..))
  | some m =>
    obtain ⟨text', rest', heq, rfl, h'⟩ := hs m he
    rw [(h.eq_of_append_eq h' heq).1]

variable {c quote : Char} {cs ds text rest body : List Char} {m n : Nat}

@[simp] theorem isWordChar_dot : isWordChar '.' = false := by decide

theorem isWordChar_of_isAlpha (h : c.isAlpha) : isWordChar c := by
  simp [isWordChar, Char.isAlphanum, h]

/-! ### Tag names -/

theorem isTagName_cons : IsTagName (c :: cs) ↔ c.isAlpha ∧ ∀ d ∈ cs, isWordChar d := by
  simp [IsTagName]

theorem IsTagName.mem (h : IsTagName cs) (hc : c ∈ cs) : isWordChar c := by
  obtain ⟨d, ds, rfl, hd, hs⟩ := h
  cases hc with
  | head => exact isWordChar_of_isAlpha hd
  | tail _ hc => exact hs c hc

theorem IsTagName.longest (h : IsTagName text) (hr : ∀ c cs, rest = c :: cs → ¬ isWordChar c) :
    Longest IsTagName text rest := by
  refine .of_head h fun c cs he more _ hm => hr c cs he ?_
  obtain ⟨d, ds, rfl, -, -⟩ := h
  exact (isTagName_cons.mp hm).2 c (by simp)

theorem exists_longest_of_extent?_tagName (h : tagName.extent? cs = some n) :
    ∃ text rest, cs = text ++ rest ∧ text.length = n ∧ Longest IsTagName text rest := by
  match cs, h with
  | c :: cs, h =>
    simp only [extent?] at h
    split at h
    · next hc =>
      refine ⟨c :: cs.takeWhile isWordChar, cs.dropWhile isWordChar, by simp, ?_, ?_⟩
      · rw [List.length_cons, ← Option.some.inj h, Nat.add_comm]
      · refine IsTagName.longest ?_ fun d ds hd => ?_
        · exact isTagName_cons.mpr ⟨hc, fun d hd => List.mem_takeWhile_imp hd⟩
        · have := List.head?_dropWhile_not isWordChar cs
          simpa [hd] using this
    · cases h

theorem not_isTagName_of_extent?_tagName (h : tagName.extent? cs = none) (ht : text <+: cs) :
    ¬ IsTagName text := by
  rintro ⟨c, more, rfl, hc, -⟩
  obtain ⟨rest, rfl⟩ := ht
  simp [extent?, hc] at h

theorem extent?_tagName_eq_some_iff : tagName.extent? cs = some n ↔
    ∃ text rest, cs = text ++ rest ∧ text.length = n ∧ Longest IsTagName text rest :=
  extent?_eq_some_iff (fun _ => exists_longest_of_extent?_tagName)
    (fun h _ => not_isTagName_of_extent?_tagName h)

/-! ### Identifiers -/

/-- What may follow a word character inside an identifier. -/
inductive IsTail : List Char → Prop where
  | nil : IsTail []
  | word {c : Char} {cs : List Char} : isWordChar c → IsTail cs → IsTail (c :: cs)
  | dotted {c : Char} {cs : List Char} : isWordChar c → IsTail cs → IsTail ('.' :: c :: cs)

theorem isTail_cons : IsTail (c :: cs) ↔ (isWordChar c ∧ IsTail cs) ∨
    (c = '.' ∧ ∃ d ds, cs = d :: ds ∧ isWordChar d ∧ IsTail ds) := by
  constructor
  · intro h
    cases h with
    | word hc h => exact .inl ⟨hc, h⟩
    | dotted hc h => exact .inr ⟨rfl, _, _, rfl, hc, h⟩
  · rintro (⟨hc, h⟩ | ⟨rfl, d, ds, rfl, hd, h⟩)
    · exact .word hc h
    · exact .dotted hd h

theorem IsTail.append_of_isWord (hc : ∀ d ∈ cs, isWordChar d) (h : IsTail ds) :
    IsTail (cs ++ ds) := by
  induction cs with
  | nil => exact h
  | cons d cs ih =>
    exact .word (hc d (by simp)) (ih fun e he => hc e (by simp [he]))

theorem IsIdentifier.ne_nil (h : IsIdentifier cs) : cs ≠ [] := by
  cases h with
  | word h => exact h.1
  | dotted h => simp [h.1]

theorem IsIdentifier.cons (hc : isWordChar c) (h : IsIdentifier cs) : IsIdentifier (c :: cs) := by
  cases h with
  | word h => exact .word ⟨by simp, by simpa [hc] using h.2⟩
  | @dotted as bs h hb =>
    have h' : IsWord (c :: as) := ⟨by simp, by simpa [hc] using h.2⟩
    exact .dotted h' hb

theorem isIdentifier_cons : IsIdentifier (c :: cs) ↔ isWordChar c ∧ IsTail cs := by
  constructor
  · intro h
    generalize hd : c :: cs = ds at h
    induction h generalizing c cs with
    | word hw =>
      subst hd
      refine ⟨hw.2 c (by simp), ?_⟩
      simpa using IsTail.append_of_isWord (fun d hd => hw.2 d (by simp [hd])) .nil
    | @dotted as bs hw hb ih =>
      obtain ⟨a, as, rfl⟩ := List.exists_cons_of_ne_nil hw.1
      obtain ⟨b, bs, rfl⟩ := List.exists_cons_of_ne_nil hb.ne_nil
      simp only [List.cons_append, List.cons.injEq] at hd
      obtain ⟨rfl, rfl⟩ := hd
      refine ⟨hw.2 c (by simp), IsTail.append_of_isWord (fun d hd => hw.2 d (by simp [hd])) ?_⟩
      exact .dotted (ih rfl).1 (ih rfl).2
  · rintro ⟨hc, ht⟩
    induction ht generalizing c with
    | nil => exact .word ⟨by simp, by simpa using hc⟩
    | word hd _ ih => exact (ih hd).cons hc
    | dotted hd _ ih => exact .dotted (show IsWord [c] from ⟨by simp, by simpa using hc⟩) (ih hd)

theorem IsIdentifier.mem (h : IsIdentifier cs) (hc : c ∈ cs) : isWordChar c ∨ c = '.' := by
  induction h with
  | word hw => exact .inl (hw.2 c hc)
  | dotted hw _ ih =>
    rcases List.mem_append.mp hc with hc | hc
    · exact .inl (hw.2 c hc)
    · rcases List.mem_cons.mp hc with rfl | hc
      · exact .inr rfl
      · exact ih hc

/-- A text in front of which every name and every identifier ends. -/
def Stops (cs : List Char) : Prop := ∀ c rest, cs = c :: rest → ¬ isWordChar c ∧ c ≠ '.'

theorem stops_cons (hc : ¬ isWordChar c) (hd : c ≠ '.') : Stops (c :: cs) := by
  rintro _ _ ⟨⟩
  exact ⟨hc, hd⟩

theorem IsIdentifier.longest (h : IsIdentifier text) (hr : Stops rest) :
    Longest IsIdentifier text rest := by
  refine .of_head h fun c cs he more _ hm => ?_
  rcases hm.mem (c := c) (by simp) with hc | hc
  · exact (hr c cs he).1 hc
  · exact (hr c cs he).2 hc

theorem exists_longest_dottedExtent (n : Nat) (cs : List Char) :
    ∃ text rest, cs = text ++ rest ∧ n + text.length = dottedExtent n cs ∧
      Longest IsTail text rest := by
  fun_induction dottedExtent n cs with
  | case1 n c cs hc ih =>
    obtain ⟨text, rest, rfl, hn, hl⟩ := ih
    refine ⟨'.' :: c :: text, rest, rfl, by rw [← hn]; simp; omega, .dotted hc hl.1, ?_⟩
    intro more hm hp ht
    rcases isTail_cons.mp ht with ⟨h, -⟩ | ⟨-, d, ds, he, -, ht⟩
    · simp at h
    · obtain ⟨rfl, rfl⟩ := List.cons.inj he
      exact hl.2 more hm hp ht
  | case2 n c cs hc =>
    refine ⟨[], _, rfl, rfl, .of_head .nil ?_⟩
    rintro _ _ ⟨⟩ more ⟨after, hp⟩ ht
    rcases isTail_cons.mp ht with ⟨h, -⟩ | ⟨-, d, ds, rfl, h, -⟩
    · simp at h
    · exact hc ((List.cons.inj hp).1 ▸ h)
  | case3 n c cs hne hc ih =>
    obtain ⟨text, rest, rfl, hn, hl⟩ := ih
    refine ⟨c :: text, rest, rfl, by rw [← hn]; simp; omega, .word hc hl.1, ?_⟩
    intro more hm hp ht
    rcases isTail_cons.mp ht with ⟨-, ht⟩ | ⟨rfl, -⟩
    · exact hl.2 more hm hp ht
    · simp at hc
  | case4 n c cs hne hc =>
    refine ⟨[], _, rfl, rfl, .of_head .nil ?_⟩
    rintro _ _ ⟨⟩ more ⟨after, hp⟩ ht
    rcases isTail_cons.mp ht with ⟨h, -⟩ | ⟨rfl, d, ds, rfl, -, -⟩
    · exact hc h
    · exact hne d _ rfl hp.symm
  | case5 n => exact ⟨[], [], rfl, rfl, .of_head .nil (by simp)⟩

theorem exists_longest_of_extent?_identifier (h : identifier.extent? cs = some n) :
    ∃ text rest, cs = text ++ rest ∧ text.length = n ∧ Longest IsIdentifier text rest := by
  match cs, h with
  | c :: cs, h =>
    simp only [extent?] at h
    split at h
    · next hc =>
      obtain ⟨text, rest, rfl, hn, hl⟩ := exists_longest_dottedExtent 1 cs
      refine ⟨c :: text, rest, rfl, ?_, isIdentifier_cons.mpr ⟨hc, hl.1⟩, ?_⟩
      · rw [← Option.some.inj h, ← hn, List.length_cons, Nat.add_comm]
      · exact fun more hm hp ht => hl.2 more hm hp (isIdentifier_cons.mp ht).2
    · cases h

theorem not_isIdentifier_of_extent?_identifier (h : identifier.extent? cs = none)
    (ht : text <+: cs) : ¬ IsIdentifier text := by
  intro hi
  obtain ⟨c, more, rfl⟩ := List.exists_cons_of_ne_nil hi.ne_nil
  obtain ⟨rest, rfl⟩ := ht
  simp [extent?, (isIdentifier_cons.mp hi).1] at h

theorem extent?_identifier_eq_some_iff : identifier.extent? cs = some n ↔
    ∃ text rest, cs = text ++ rest ∧ text.length = n ∧ Longest IsIdentifier text rest :=
  extent?_eq_some_iff (fun _ => exists_longest_of_extent?_identifier)
    (fun h _ => not_isIdentifier_of_extent?_identifier h)

/-! ### Literals and comments -/

theorem quotedExtent?_append (h : IsLiteral quote body) (hq : quote ≠ '\\') (n : Nat)
    (rest : List Char) :
    quotedExtent? quote n (body ++ quote :: rest) = some (n + body.length + 1) := by
  induction h generalizing n with
  | nil => rw [List.nil_append, quotedExtent?.eq_2 _ _ _ _ (by simp_all)]; simp
  | plain hc hb _ ih =>
    rw [List.cons_append, quotedExtent?.eq_2 _ _ _ _ (by simp_all), if_neg hc, if_neg hb, ih]
    simp; omega
  | escaped _ ih =>
    rw [List.cons_append, List.cons_append, quotedExtent?, ih]
    simp; omega

theorem exists_of_quotedExtent? (h : quotedExtent? quote n cs = some m) :
    ∃ body rest, cs = body ++ quote :: rest ∧ m = n + body.length + 1 ∧ IsLiteral quote body := by
  fun_induction quotedExtent? quote n cs with
  | case1 n c cs ih =>
    obtain ⟨body, rest, rfl, rfl, hb⟩ := ih h
    exact ⟨'\\' :: c :: body, rest, rfl, by simp; omega, .escaped hb⟩
  | case2 n cs => exact ⟨[], cs, rfl, (Option.some.inj h).symm, .nil⟩
  | case3 => cases h
  | case4 n c cs _ hc hb ih =>
    obtain ⟨body, rest, rfl, rfl, hl⟩ := ih h
    exact ⟨c :: body, rest, rfl, by simp; omega, .plain hc hb hl⟩
  | case5 => cases h

theorem IsCommentBody.of_cons (h : IsCommentBody (c :: body)) : IsCommentBody body :=
  fun before after he => h (c :: before) after (by simp [he])

theorem commentExtent?_append (h : IsCommentBody body) (n : Nat) (rest : List Char) :
    commentExtent? n (body ++ commentEnd ++ rest) = some (n + body.length + 3) := by
  induction body generalizing n with
  | nil => rfl
  | cons c body ih =>
    rw [List.cons_append, List.cons_append, commentExtent?.eq_2, ih h.of_cons]
    · simp; omega
    · rintro more rfl hm
      -- The end cannot stand at the head: the body and its end are longer than the end alone.
      have he : '-' :: body ++ commentEnd = commentEnd ++ (body ++ commentEnd).drop 2 := by
        match body, hm with
        | [], hm => cases hm
        | [_], hm => cases hm
        | _ :: _ :: _, hm => cases hm; rfl
      have := congrArg List.length (h [] _ he)
      simp [commentEnd] at this

theorem exists_of_commentExtent? (h : commentExtent? n cs = some m) :
    ∃ body rest, cs = body ++ commentEnd ++ rest ∧ m = n + body.length + 3 ∧
      IsCommentBody body := by
  fun_induction commentExtent? n cs with
  | case1 n rest =>
    refine ⟨[], rest, rfl, (Option.some.inj h).symm, fun before after he => ?_⟩
    have := congrArg List.length he
    simp [commentEnd] at this
    exact List.length_eq_zero_iff.mp (by omega)
  | case2 n c cs hne ih =>
    obtain ⟨body, rest, rfl, rfl, hb⟩ := ih h
    refine ⟨c :: body, rest, rfl, by simp; omega, fun before after he => ?_⟩
    cases before with
    | nil =>
      obtain ⟨rfl, he'⟩ := List.cons.inj he
      exact (hne (after ++ rest) rfl (congrArg (· ++ rest) he')).elim
    | cons _ before => exact hb before after (List.cons.inj he).2
  | case3 => cases h

def commentStart : List Char := ['!', '-', '-']

theorem extent?_comment_eq_some_iff : comment.extent? cs = some n ↔
    ∃ text rest, cs = text ++ rest ∧ text.length = n ∧
      ∃ body, text = commentStart ++ body ++ commentEnd ∧ IsCommentBody body := by
  constructor
  · intro h
    unfold extent? at h
    split at h <;> try contradiction
    · obtain ⟨body, rest, rfl, rfl, hb⟩ := exists_of_commentExtent? h
      refine ⟨commentStart ++ body ++ commentEnd, rest, by simp [commentStart], ?_, body, rfl, hb⟩
      simp [commentStart, commentEnd]
      omega
  · rintro ⟨_, rest, rfl, rfl, body, rfl, hb⟩
    have := commentExtent?_append hb 3 rest
    simp only [commentStart, List.cons_append, List.nil_append, List.length_cons]
    rw [extent?, this]
    simp [commentEnd]
    omega

/-- The token of a quote takes the body of a literal and the quote behind it. -/
theorem extent?_ofQuote?_eq_some_iff {t : Token} (ht : ofQuote? quote = some t) :
    t.extent? cs = some n ↔ ∃ text rest, cs = text ++ rest ∧ text.length = n ∧
      ∃ body, text = body ++ [quote] ∧ IsLiteral quote body := by
  have hq : quote ≠ '\\' ∧ t.extent? cs = quotedExtent? quote 0 cs := by
    unfold ofQuote? at ht
    split at ht <;> cases ht <;> exact ⟨by decide, rfl⟩
  rw [hq.2]
  constructor
  · intro h
    obtain ⟨body, rest, rfl, rfl, hb⟩ := exists_of_quotedExtent? h
    exact ⟨body ++ [quote], rest, by simp, by simp, body, rfl, hb⟩
  · rintro ⟨_, rest, rfl, rfl, body, rfl, hb⟩
    rw [List.append_assoc, List.singleton_append, quotedExtent?_append hb hq.1]
    simp

theorem isQuote_of_ofQuote? {t : Token} (h : ofQuote? c = some t) : isQuote c := by
  unfold ofQuote? at h
  split at h <;> first | rfl | cases h

end Token

end SceneMarkup
