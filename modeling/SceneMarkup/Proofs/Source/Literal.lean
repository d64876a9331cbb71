import Mathlib.Algebra.Group.Nat.Even
import Mathlib.Data.List.DropRight
import Mathlib.Data.List.Induction
import Mathlib.Order.Bounds.Basic
import Mathlib.Order.Nat
import SceneMarkup.Proofs.Source.Quoting
import SceneMarkup.Proofs.Source.Scanner

/-! # Literals

Raw code and quoted values read the same literals by different rules. In raw code a quote counts
unless a backslash stands directly before it; in a quoted value it counts unless the backslashes
before it are odd in number. The two rules end a literal at the same quote unless one stands behind
an even run of backslashes.
-/

namespace SceneMarkup

section

variable {α : Type} {P : List α → Prop} {c : α} {cs text rest : List α} {i n : Nat}

theorem getElem?_eq_some_iff_append : cs[i]? = some c ↔
    ∃ text rest, cs = text ++ c :: rest ∧ i = text.length := by
  constructor
  · intro h
    obtain ⟨hi, rfl⟩ := List.getElem?_eq_some_iff.mp h
    exact ⟨cs.take i, cs.drop (i + 1), by simp, (List.length_take_of_le hi.le).symm⟩
  · rintro ⟨text, rest, rfl, rfl⟩
    simp

theorem isLeast_of_forall_lt {A : Nat → Prop} (hn : A n) (h : ∀ i < n, ¬ A i) :
    IsLeast {i | A i} n :=
  ⟨hn, fun i hi => not_lt.mp fun hlt => h i hlt hi⟩

theorem isLeast_getElem?_iff : IsLeast {i | cs[i]? = some c ∧ P (cs.take i)} n ↔
    ∃ text rest, cs = text ++ c :: rest ∧ n = text.length ∧ P text ∧
      ∀ before after, text = before ++ c :: after → ¬ P before := by
  constructor
  · rintro ⟨⟨hn, hp⟩, hl⟩
    obtain ⟨text, rest, rfl, rfl⟩ := getElem?_eq_some_iff_append.mp hn
    rw [List.take_left] at hp
    refine ⟨text, rest, rfl, rfl, hp, ?_⟩
    rintro before after rfl hb
    have hle : (before ++ c :: after).length ≤ before.length := hl ⟨by simp, by simpa using hb⟩
    rw [List.length_append, List.length_cons] at hle
    omega
  · rintro ⟨text, rest, rfl, rfl, hp, hf⟩
    refine ⟨⟨by simp, by rwa [List.take_left]⟩, ?_⟩
    rintro i ⟨hc, hi⟩
    by_contra! hlt
    rw [List.getElem?_append_left hlt] at hc
    rw [List.take_append_of_le_length hlt.le] at hi
    obtain ⟨before, after, rfl, rfl⟩ := getElem?_eq_some_iff_append.mp hc
    rw [List.take_left] at hi
    exact hf before after rfl hi

end

theorem ne_backslash_of_isQuote {c : Char} (h : isQuote c) : c ≠ '\\' := by
  rintro rfl
  cases h

/-! ### Literals in raw code -/

namespace Quoting

/-- No backslash stands at the end of the text. -/
def Bare (cs : List Char) : Prop := cs.getLast? ≠ some '\\'

/-- Each quote of this kind stands directly behind a backslash. -/
def Shielded (quote : Char) (cs : List Char) : Prop :=
  ∀ before after, cs = before ++ quote :: after → ¬ Bare before

/-- A text that opens no literal but complete ones: outside of them, each quote stands directly
behind a backslash. -/
inductive Outside : List Char → Prop where
  | nil : Outside []
  | char {cs : List Char} {c : Char} : Outside cs → (isQuote c → ¬ Bare cs) → Outside (cs ++ [c])
  | literal {cs inside : List Char} {quote : Char} : Outside cs → Bare cs → isQuote quote →
      Shielded quote inside → Bare inside → Outside (cs ++ quote :: inside ++ [quote])

/-- The text opens a literal by this quote and does not close it. -/
def Within (quote : Char) (cs : List Char) : Prop :=
  ∃ before inside, cs = before ++ quote :: inside ∧ Outside before ∧ Bare before ∧
    isQuote quote ∧ Shielded quote inside

variable {q : Quoting} {quote c : Char} {cs inside : List Char}

@[simp] theorem pass_append (q : Quoting) (cs ds : List Char) :
    q.pass (cs ++ ds) = (q.pass cs).pass ds := List.foldl_append

theorem bare_nil : Bare [] := by simp [Bare]

@[simp] theorem bare_concat : Bare (cs ++ [c]) ↔ c ≠ '\\' := by simp [Bare]

theorem Shielded.concat (h : Shielded quote cs) (hc : c = quote → ¬ Bare cs) :
    Shielded quote (cs ++ [c]) := by
  intro before after he
  rcases List.eq_nil_or_concat after with rfl | ⟨after, last, rfl⟩
  · obtain ⟨rfl, hc'⟩ := List.append_inj' he rfl
    exact hc (List.cons.inj hc').1
  · rw [List.concat_eq_append, ← List.cons_append, ← List.append_assoc] at he
    exact h before after (List.append_inj' he rfl).1

theorem Shielded.of_concat (h : Shielded quote (cs ++ [c])) :
    Shielded quote cs ∧ (c = quote → ¬ Bare cs) := by
  constructor
  · rintro before after rfl
    exact h before (after ++ [c]) (by simp)
  · rintro rfl
    exact h cs [] rfl

theorem escaped_pass (hq : q.escaped = false) : (q.pass cs).escaped = true ↔ ¬ Bare cs := by
  rcases List.eq_nil_or_concat cs with rfl | ⟨cs, c, rfl⟩
  · simp [hq, bare_nil]
  · rw [List.concat_eq_append, pass_append, bare_concat, not_not]
    exact beq_iff_eq

theorem escaped_pass_of_bare (hq : q.escaped = false) (h : Bare cs) :
    (q.pass cs).escaped = false :=
  Bool.eq_false_iff.mpr fun he => (escaped_pass hq).mp he h

theorem quote_feed_of_none (h : q.quote = none) :
    (q.feed c).quote = if isQuote c ∧ q.escaped = false then some c else none := by
  simp [feed, h]

theorem quote_feed_of_some (h : q.quote = some quote) (hq : isQuote quote) :
    (q.feed c).quote = if c = quote ∧ q.escaped = false then none else some quote := by
  by_cases hc : c = quote
  · subst hc
    simp [feed, h, hq]
  · simp [feed, h, hc, Ne.symm hc]

theorem quote_pass_of_shielded (hq : isQuote quote) (hs : q.quote = some quote)
    (he : q.escaped = false) (h : Shielded quote cs) : (q.pass cs).quote = some quote := by
  induction cs using List.reverseRecOn with
  | nil => exact hs
  | append_singleton cs c ih =>
    obtain ⟨hcs, hc⟩ := h.of_concat
    rw [pass_append, pass_cons, pass_nil, quote_feed_of_some (ih hcs) hq, if_neg]
    rintro ⟨rfl, hb⟩
    rw [(escaped_pass he).mpr (hc rfl)] at hb
    cases hb

theorem quote_feed_open (hq : isQuote quote) (hs : q.quote = none) (he : q.escaped = false) :
    (q.feed quote).quote = some quote ∧ (q.feed quote).escaped = false :=
  ⟨by simp [quote_feed_of_none hs, hq, he], beq_eq_false_iff_ne.mpr (ne_backslash_of_isQuote hq)⟩

theorem Outside.quote_pass (h : Outside cs) : (start.pass cs).quote = none := by
  induction h with
  | nil => rfl
  | @char cs c _ hc ih =>
    rw [pass_append, pass_cons, pass_nil, quote_feed_of_none ih, if_neg]
    rintro ⟨hq, he⟩
    rw [(escaped_pass rfl).mpr (hc hq)] at he
    cases he
  | @literal cs inside quote _ hb hq hs hi ih =>
    obtain ⟨ho, he⟩ := quote_feed_open hq ih (escaped_pass_of_bare rfl hb)
    have hin := quote_pass_of_shielded hq ho he hs
    simp only [pass_append, pass_cons, pass_nil]
    rw [quote_feed_of_some hin hq]
    exact if_pos ⟨rfl, escaped_pass_of_bare he hi⟩

theorem Within.quote_pass (h : Within quote cs) : (start.pass cs).quote = some quote := by
  obtain ⟨before, inside, rfl, hb, hbare, hq, hs⟩ := h
  obtain ⟨ho, he⟩ := quote_feed_open hq hb.quote_pass (escaped_pass_of_bare rfl hbare)
  rw [pass_append, pass_cons]
  exact quote_pass_of_shielded hq ho he hs

theorem outside_or_within (cs : List Char) : Outside cs ∨ ∃ quote, Within quote cs := by
  induction cs using List.reverseRecOn with
  | nil => exact .inl .nil
  | append_singleton cs c ih =>
    rcases ih with h | ⟨quote, before, inside, rfl, hb, hbare, hq, hs⟩
    · by_cases hc : isQuote c ∧ Bare cs
      · exact .inr ⟨c, cs, [], rfl, h, hc.2, hc.1, fun before after he => by simp at he⟩
      · exact .inl (h.char (not_and.mp hc))
    · by_cases hc : c = quote ∧ Bare inside
      · obtain ⟨rfl, hi⟩ := hc
        exact .inl (.literal hb hbare hq hs hi)
      · refine .inr ⟨quote, before, inside ++ [c], by simp, hb, hbare, hq, ?_⟩
        exact hs.concat (not_and.mp hc)

/-- The scan is inside a literal exactly when the text leaves it open. -/
theorem quote_pass_iff : (start.pass cs).quote = some quote ↔ Within quote cs := by
  refine ⟨fun h => ?_, Within.quote_pass⟩
  rcases outside_or_within cs with ho | ⟨quote', hw⟩
  · cases h.symm.trans ho.quote_pass
  · obtain rfl := Option.some.inj (h.symm.trans hw.quote_pass)
    exact hw

/-- Behind an opening quote, the scan is outside the literal again when it has passed the character
at this index. -/
def Unquotes (quote : Char) (cs : List Char) (i : Nat) : Prop :=
  i < cs.length ∧ ((start.feed quote).pass (cs.take (i + 1))).quoted = false

instance (quote : Char) (cs : List Char) (i : Nat) : Decidable (Unquotes quote cs i) :=
  inferInstanceAs (Decidable (_ ∧ _))

theorem Shielded.of_append {ds : List Char} (h : Shielded quote (cs ++ ds)) :
    Shielded quote cs := by
  rintro before after rfl
  exact h before (after ++ ds) (by simp)

theorem not_unquotes_of_shielded (hq : isQuote quote) {i : Nat}
    (h : Shielded quote (cs.take (i + 1))) : ¬ Unquotes quote cs i := by
  obtain ⟨ho, he⟩ := quote_feed_open (q := start) hq rfl rfl
  rintro ⟨-, hu⟩
  rw [quoted, quote_pass_of_shielded hq ho he h] at hu
  cases hu

/-- The scan leaves a literal at the first quote of its kind that is not shielded. -/
theorem isLeast_unquotes_of_shielded (hq : isQuote quote) (hi : Bare inside)
    (hs : Shielded quote inside) (rest : List Char) :
    IsLeast {i | Unquotes quote (inside ++ quote :: rest) i} inside.length := by
  obtain ⟨ho, he⟩ := quote_feed_open (q := start) hq rfl rfl
  refine ⟨⟨by simp, ?_⟩, fun i hu => ?_⟩
  · have ht : (inside ++ quote :: rest).take (inside.length + 1) = inside ++ [quote] := by
      simp [List.take_append]
    have hin := quote_pass_of_shielded hq ho he hs
    rw [ht, pass_append, pass_cons, pass_nil, quoted, quote_feed_of_some hin hq,
      if_pos ⟨rfl, escaped_pass_of_bare he hi⟩]
    rfl
  · by_contra! hlt
    refine not_unquotes_of_shielded hq ?_ hu
    rw [List.take_append_of_le_length hlt]
    rw [← List.take_append_drop (i + 1) inside] at hs
    exact hs.of_append

theorem isLeast_unquotes_iff (hq : isQuote quote) {n : Nat} :
    IsLeast {i | Unquotes quote cs i} n ↔
      IsLeast {i | cs[i]? = some quote ∧ Bare (cs.take i)} n := by
  have least {m : Nat} (h : IsLeast {i | cs[i]? = some quote ∧ Bare (cs.take i)} m) :
      IsLeast {i | Unquotes quote cs i} m := by
    obtain ⟨inside, rest, rfl, rfl, hi, hs⟩ := isLeast_getElem?_iff.mp h
    exact isLeast_unquotes_of_shielded hq hi hs rest
  refine ⟨fun h => ?_, least⟩
  by_cases hb : ∃ i, cs[i]? = some quote ∧ Bare (cs.take i)
  · classical
    have hm := Nat.isLeast_find hb
    exact h.unique (least hm) ▸ hm
  · -- Without a quote that counts, the literal is open up to the end of the text.
    have hs : Shielded quote cs := by
      rintro before after rfl hbare
      exact hb ⟨before.length, by simp, by simpa using hbare⟩
    rw [← List.take_append_drop (n + 1) cs] at hs
    exact absurd h.1 (not_unquotes_of_shielded hq hs.of_append)

end Quoting

/-! ### Literals in quoted values -/

/-- How many backslashes stand at the end of a text. -/
def backslashes (cs : List Char) : Nat := (cs.rtakeWhile (· == '\\')).length

section

variable {quote c : Char} {cs body : List Char} {n : Nat}

@[simp] theorem backslashes_nil : backslashes [] = 0 := rfl

theorem backslashes_concat (cs : List Char) (c : Char) :
    backslashes (cs ++ [c]) = if c = '\\' then backslashes cs + 1 else 0 := by
  simp only [backslashes, List.rtakeWhile_concat, beq_iff_eq]
  split <;> simp

theorem backslashes_eq_zero_iff : backslashes cs = 0 ↔ Quoting.Bare cs := by
  rcases List.eq_nil_or_concat cs with rfl | ⟨cs, c, rfl⟩
  · simp [Quoting.bare_nil]
  · rw [List.concat_eq_append, backslashes_concat, Quoting.bare_concat]
    split <;> simp_all

theorem backslashes_cons (hc : c ≠ '\\') (cs : List Char) :
    backslashes (c :: cs) = backslashes cs := by
  induction cs using List.reverseRecOn with
  | nil => exact (backslashes_concat [] c).trans (if_neg hc)
  | append_singleton cs d ih =>
    rw [← List.cons_append, backslashes_concat, backslashes_concat, ih]

/-- A pair of a backslash and a character leaves the parity of what follows as it is. -/
theorem even_backslashes_pair (c : Char) (cs : List Char) :
    Even (backslashes ('\\' :: c :: cs)) ↔ Even (backslashes cs) := by
  induction cs using List.reverseRecOn with
  | nil =>
    have h : backslashes ['\\', c] = if c = '\\' then 2 else 0 := backslashes_concat ['\\'] c
    rw [h]
    split <;> decide
  | append_singleton cs d ih =>
    rw [← List.cons_append, ← List.cons_append, backslashes_concat, backslashes_concat]
    split
    · simp only [Nat.even_add_one, ih]
    · rfl

/-- Without two backslashes side by side, an even run of them is none. -/
theorem even_backslashes_iff (h : ∀ before after, cs ≠ before ++ '\\' :: '\\' :: after)
    {text : List Char} (ht : text <+: cs) : Even (backslashes text) ↔ Quoting.Bare text := by
  obtain ⟨rest, rfl⟩ := ht
  rcases List.eq_nil_or_concat text with rfl | ⟨text, c, rfl⟩
  · simp [Quoting.bare_nil]
  · rw [List.concat_eq_append, backslashes_concat, Quoting.bare_concat]
    split
    · next hc =>
      subst hc
      have hb : Quoting.Bare text := by
        intro he
        obtain ⟨before, rfl⟩ := List.getLast?_eq_some_iff.mp he
        exact h before rest (by simp)
      simp [backslashes_eq_zero_iff.mpr hb]
    · next hc => simp [hc]

namespace Token

theorem isLiteral_of_even : ∀ {body : List Char}, Even (backslashes body) →
    (∀ before after, body = before ++ quote :: after → ¬ Even (backslashes before)) →
    IsLiteral quote body
  | [], _, _ => .nil
  | [c], he, hs => by
    refine .plain ?_ ?_ .nil
    · rintro rfl
      exact hs [] [] rfl Even.zero
    · rintro rfl
      exact absurd he (by decide)
  | c :: d :: cs, he, hs => by
    by_cases hc : c = '\\'
    · subst hc
      refine .escaped (isLiteral_of_even ((even_backslashes_pair d cs).mp he) ?_)
      rintro before after rfl hb
      exact hs ('\\' :: d :: before) after rfl ((even_backslashes_pair d before).mpr hb)
    · refine .plain ?_ hc (isLiteral_of_even (backslashes_cons hc _ ▸ he) ?_)
      · rintro rfl
        exact hs [] (d :: cs) rfl Even.zero
      · intro before after hb hev
        exact hs (c :: before) after (congrArg (c :: ·) hb) (by rwa [backslashes_cons hc])

/-- The text of a quoted value: each of its quotes stands behind an odd run of backslashes, and an
even run stands at its end. -/
theorem isLiteral_iff_even (hq : quote ≠ '\\') : IsLiteral quote body ↔
    Even (backslashes body) ∧
      ∀ before after, body = before ++ quote :: after → ¬ Even (backslashes before) := by
  refine ⟨fun h => ?_, fun h => isLiteral_of_even h.1 h.2⟩
  induction h with
  | nil => exact ⟨Even.zero, fun before after he => by simp at he⟩
  | @plain c cs hc hb _ ih =>
    refine ⟨backslashes_cons hb cs ▸ ih.1, fun before after he => ?_⟩
    cases before with
    | nil => exact absurd (List.cons.inj he).1 hc
    | cons _ before =>
      obtain ⟨rfl, rfl⟩ := List.cons.inj he
      rw [backslashes_cons hb]
      exact ih.2 before after rfl
  | @escaped c cs _ ih =>
    refine ⟨(even_backslashes_pair c cs).mpr ih.1, fun before after he => ?_⟩
    rcases before with _ | ⟨b, _ | ⟨d, before⟩⟩
    · exact absurd (List.cons.inj he).1.symm hq
    · obtain rfl : '\\' = b := (List.cons.inj he).1
      decide
    · obtain ⟨rfl, ht⟩ := List.cons.inj he
      obtain ⟨rfl, rfl⟩ := List.cons.inj ht
      rw [even_backslashes_pair]
      exact ih.2 before after rfl

/-- The token of a quote ends at the first quote that stands behind an even run of backslashes. -/
theorem extent?_ofQuote?_iff_isLeast {t : Token} (ht : ofQuote? quote = some t) :
    t.extent? cs = some (n + 1) ↔
      IsLeast {i | cs[i]? = some quote ∧ Even (backslashes (cs.take i))} n := by
  have hq := ne_backslash_of_isQuote (isQuote_of_ofQuote? ht)
  rw [extent?_ofQuote?_eq_some_iff ht, isLeast_getElem?_iff (P := fun cs => Even (backslashes cs))]
  simp only [← isLiteral_iff_even hq]
  constructor
  · rintro ⟨_, rest, rfl, hl, body, rfl, hb⟩
    exact ⟨body, rest, by simp, by simpa using hl.symm, hb⟩
  · rintro ⟨body, rest, rfl, rfl, hb⟩
    exact ⟨body ++ [quote], rest, by simp, by simp, body, rfl, hb⟩

open Quoting

/-- A quote without a backslash before it is also the first to count among the quotes behind even
runs, unless one of them stands before it. -/
theorem exists_isLeast_even {inside : List Char} (hb : Bare inside) (rest : List Char) :
    ∃ m, IsLeast {i | (inside ++ quote :: rest)[i]? = some quote ∧
        Even (backslashes ((inside ++ quote :: rest).take i))} m ∧
      m ≤ inside.length ∧ (m = inside.length ↔
        ∀ before after, inside = before ++ quote :: after → ¬ Even (backslashes before)) := by
  classical
  have hev : Even (backslashes inside) := by simp [backslashes_eq_zero_iff.mpr hb]
  have hi : ∃ i, (inside ++ quote :: rest)[i]? = some quote ∧
      Even (backslashes ((inside ++ quote :: rest).take i)) := ⟨inside.length, by simpa using hev⟩
  have hm := Nat.isLeast_find hi
  refine ⟨_, hm, hm.2 (by simpa using hev), ?_⟩
  rw [← hm.isLeast_iff_eq, isLeast_getElem?_iff (P := fun cs => Even (backslashes cs))]
  constructor
  · rintro ⟨text, rest', he, hl, -, hf⟩
    obtain ⟨rfl, -⟩ := List.append_inj he hl
    exact hf
  · exact fun hf => ⟨inside, rest, rfl, rfl, hev, hf⟩

theorem literal_of_extent? {t : Token} (ht : ofQuote? quote = some t) {s : Scanner}
    (label : String) (hs : s.rest = quote :: cs) (hn : t.extent? cs = some (n + 1)) :
    s.literal label = .ok (cs.take n, s.skip (n + 2)) := by
  obtain ⟨text, rest, rfl, hl, body, rfl, -⟩ := (extent?_ofQuote?_eq_some_iff ht).mp hn
  obtain rfl : body.length = n := by simpa using hl
  have hr := Scanner.rest_skip_one hs
  rw [Scanner.literal_of_ofQuote? label (Scanner.current?_of_rest hs) ht,
    Scanner.expect_of_some label (hr ▸ hn), hr, Scanner.skip_skip, Nat.add_comm 1]
  simp [bind, Except.bind, List.take_append]

/-- Where raw code closes a literal, its value is closed too or has been before: before exactly
when a quote in it stands behind an even run of backslashes. Without two backslashes side by side
both close it at the same quote, and the value is read up to there. -/
theorem literal_ends {t : Token} (ht : ofQuote? quote = some t) (cs : List Char) :
    (∀ n, IsLeast {i | Unquotes quote cs i} n →
      ∃ m, t.extent? cs = some (m + 1) ∧ m ≤ n ∧ (m = n ↔
        ∀ before after, cs.take n = before ++ quote :: after →
          ¬ (0 < backslashes before ∧ Even (backslashes before)))) ∧
    ((∀ before after, cs ≠ before ++ '\\' :: '\\' :: after) → ∀ n,
      (t.extent? cs = some (n + 1) ↔ IsLeast {i | Unquotes quote cs i} n) ∧
      ∀ (s : Scanner) (label : String), s.rest = quote :: cs →
        IsLeast {i | Unquotes quote cs i} n →
          s.literal label = .ok (cs.take n, s.skip (n + 2))) := by
  have hq := isQuote_of_ofQuote? ht
  constructor
  · intro n hn
    obtain ⟨inside, rest, rfl, rfl, hb, hs⟩ :=
      isLeast_getElem?_iff.mp ((isLeast_unquotes_iff hq).mp hn)
    obtain ⟨m, hm, hle, heq⟩ := exists_isLeast_even hb rest
    refine ⟨m, (extent?_ofQuote?_iff_isLeast ht).mpr hm, hle, heq.trans ?_⟩
    rw [List.take_left]
    -- A quote before the end of the literal stands behind some backslash, so zero is left out.
    refine forall₂_congr fun before after => imp_congr_right fun he => ?_
    rw [and_iff_right (Nat.pos_of_ne_zero (mt backslashes_eq_zero_iff.mp (hs before after he)))]
  · intro h n
    have same : t.extent? cs = some (n + 1) ↔ IsLeast {i | Unquotes quote cs i} n := by
      rw [extent?_ofQuote?_iff_isLeast ht, isLeast_unquotes_iff hq]
      simp only [even_backslashes_iff h (List.take_prefix _ cs)]
    exact ⟨same, fun s label hs hn => literal_of_extent? ht label hs (same.mpr hn)⟩

/-- A pair of backslashes keeps a quote open in raw code only. -/
theorem literal_ends_doubled :
    IsLeast {i | Unquotes '"' "\\\\\" x\"".toList i} 5 ∧ ofQuote? '"' = some doubleQuoted ∧
      ∃ m, doubleQuoted.extent? "\\\\\" x\"".toList = some (m + 1) ∧ m ≤ 5 ∧ m ≠ 5 := by
  have hn : IsLeast {i | Unquotes '"' "\\\\\" x\"".toList i} 5 :=
    isLeast_of_forall_lt (by decide) (by decide)
  have ht : ofQuote? '"' = some doubleQuoted := rfl
  obtain ⟨m, hm, hle, heq⟩ := (literal_ends ht _).1 5 hn
  refine ⟨hn, ht, m, hm, hle, fun he => ?_⟩
  exact heq.mp he ['\\', '\\'] [' ', 'x'] (by decide) (by decide)

end Token

end

end SceneMarkup
