import Mathlib.Data.List.Infix
import Mathlib.Tactic.Common
import SceneMarkup.Source.Quoting

/-! # Raw code

A scan through raw code stops at the first live place for which it looks. The text before that
place is told apart from every other text by what the scan meets in it: no live terminator in the
body of a script, no brace that closes too much in a binding.
-/

namespace SceneMarkup

namespace Quoting

/-- Outside every literal, and not right behind a backslash. -/
def Live (q : Quoting) : Prop := q.quoted = false ∧ q.escaped = false

/-- How often a character stands outside literals in a text. -/
def bareCount (q : Quoting) (brace : Char) : List Char → Nat
  | [] => 0
  | c :: cs => (if q.quoted = false ∧ c = brace then 1 else 0) + (q.feed c).bareCount brace cs

/-- From `q` on, a body that ends live and in which the terminator never stands live. -/
structure Body (q : Quoting) (terminator cs : List Char) : Prop where
  live : (q.pass cs).Live
  first : ∀ before after, cs = before ++ after → (q.pass before).Live → ¬ terminator <+: after

/-- From `q` on, a text that ends outside literals, closes `depth` braces more than it opens, and
meets no closing brace where none is open. -/
structure Closing (q : Quoting) (depth : Nat) (cs : List Char) : Prop where
  unquoted : (q.pass cs).quoted = false
  balanced : depth + q.bareCount '{' cs = q.bareCount '}' cs
  first : ∀ before after, cs = before ++ '}' :: after → (q.pass before).quoted = false →
    depth + q.bareCount '{' before ≠ q.bareCount '}' before

end Quoting

open Quoting

def IsScriptBody (terminator cs : List Char) : Prop := Quoting.start.Body terminator cs

def IsBinding (cs : List Char) : Prop := Quoting.start.Closing 0 cs

section

variable {q : Quoting} {depth m n : Nat} {c : Char} {cs rest terminator : List Char}

@[simp] theorem Quoting.pass_nil (q : Quoting) : q.pass [] = q := rfl

@[simp] theorem Quoting.pass_cons (q : Quoting) (c : Char) (cs : List Char) :
    q.pass (c :: cs) = (q.feed c).pass cs := rfl

theorem Quoting.closing_nil : q.Closing depth [] ↔ q.quoted = false ∧ depth = 0 := by
  constructor
  · intro h
    exact ⟨h.unquoted, by simpa [bareCount] using h.balanced⟩
  · rintro ⟨hq, rfl⟩
    exact ⟨hq, rfl, fun before after h => by simp at h⟩

def Quoting.nextDepth (q : Quoting) (depth : Nat) (c : Char) : Nat :=
  if q.quoted = false ∧ c = '{' then depth + 1
  else if q.quoted = false ∧ c = '}' then depth - 1
  else depth

theorem Quoting.exists_bareCount_cons (cs : List Char)
    (h : q.quoted = false → c = '}' → depth ≠ 0) :
    ∃ k, depth + q.bareCount '{' (c :: cs) =
        q.nextDepth depth c + (q.feed c).bareCount '{' cs + k ∧
      q.bareCount '}' (c :: cs) = (q.feed c).bareCount '}' cs + k := by
  simp only [bareCount, nextDepth]
  by_cases hq : q.quoted = false
  · by_cases ho : c = '{'
    · subst ho
      exact ⟨0, by simp [hq]; omega, by simp⟩
    · by_cases hc : c = '}'
      · have := h hq hc
        exact ⟨1, by simp [hq, hc]; omega, by simp [hq, hc]; omega⟩
      · exact ⟨0, by simp [ho, hc], by simp [hc]⟩
  · exact ⟨0, by simp [hq], by simp [hq]⟩

theorem Quoting.balanced_cons (h : q.quoted = false → c = '}' → depth ≠ 0) :
    depth + q.bareCount '{' (c :: cs) = q.bareCount '}' (c :: cs) ↔
      q.nextDepth depth c + (q.feed c).bareCount '{' cs = (q.feed c).bareCount '}' cs := by
  obtain ⟨k, ho, hc⟩ := exists_bareCount_cons cs h
  omega

theorem Quoting.closing_cons : q.Closing depth (c :: cs) ↔
    (q.quoted = false → c = '}' → depth ≠ 0) ∧ (q.feed c).Closing (q.nextDepth depth c) cs := by
  constructor
  · intro h
    have h₀ : q.quoted = false → c = '}' → depth ≠ 0 := by
      rintro hq rfl hd
      exact h.first [] cs rfl hq (by simp [bareCount, hd])
    refine ⟨h₀, h.unquoted, (balanced_cons h₀).mp h.balanced, fun before after he hq hb => ?_⟩
    exact h.first (c :: before) after (by simp [he]) hq ((balanced_cons h₀).mpr hb)
  · rintro ⟨h₀, h⟩
    refine ⟨h.unquoted, (balanced_cons h₀).mpr h.balanced, fun before after he hq hb => ?_⟩
    cases before with
    | nil =>
      obtain ⟨rfl, rfl⟩ := List.cons.inj he
      exact h₀ hq rfl (by simpa [bareCount] using hb)
    | cons d before =>
      obtain ⟨rfl, rfl⟩ := List.cons.inj he
      exact h.first before after rfl hq ((balanced_cons h₀).mp hb)

theorem bindingExtent?_cons : bindingExtent? q depth n (c :: cs) =
    if q.quoted = false ∧ c = '}' ∧ depth = 0 then some n
    else bindingExtent? (q.feed c) (q.nextDepth depth c) (n + 1) cs := by
  rw [bindingExtent?, nextDepth]
  by_cases hq : q.quoted
  · simp [hq]
  · by_cases ho : c = '{'
    · subst ho
      simp [hq]
    · by_cases hc : c = '}'
      · by_cases hd : depth = 0 <;> simp [hq, hc, hd]
      · simp [hq, ho, hc]

theorem bindingExtent?_eq_some_iff : bindingExtent? q depth n cs = some m ↔
    ∃ text rest, cs = text ++ '}' :: rest ∧ m = n + text.length ∧ q.Closing depth text := by
  induction cs generalizing q depth n with
  | nil => simp [bindingExtent?]
  | cons c cs ih =>
    rw [bindingExtent?_cons]
    split
    · next h =>
      obtain ⟨hq, rfl, rfl⟩ := h
      constructor
      · intro he
        exact ⟨[], cs, rfl, (Option.some.inj he).symm, closing_nil.mpr ⟨hq, rfl⟩⟩
      · rintro ⟨_ | ⟨d, text⟩, rest, he, rfl, h⟩
        · rfl
        · obtain ⟨rfl, -⟩ := List.cons.inj he
          exact absurd rfl ((closing_cons.mp h).1 hq rfl)
    · next h =>
      rw [ih]
      constructor
      · rintro ⟨text, rest, rfl, rfl, ht⟩
        refine ⟨c :: text, rest, rfl, by simp; omega, closing_cons.mpr ⟨?_, ht⟩⟩
        exact fun hq hc hd => h ⟨hq, hc, hd⟩
      · rintro ⟨_ | ⟨d, text⟩, rest, he, rfl, ht⟩
        · obtain ⟨rfl, -⟩ := List.cons.inj he
          obtain ⟨hq, hd⟩ := closing_nil.mp ht
          exact absurd ⟨hq, rfl, hd⟩ h
        · obtain ⟨rfl, rfl⟩ := List.cons.inj he
          exact ⟨text, rest, rfl, by simp; omega, (closing_cons.mp ht).2⟩

theorem Quoting.closing_of_plain (hq : q.quoted = false)
    (h : ∀ c ∈ cs, isQuote c = false ∧ c ≠ '{' ∧ c ≠ '}') : q.Closing 0 cs := by
  induction cs generalizing q with
  | nil => exact closing_nil.mpr ⟨hq, rfl⟩
  | cons c cs ih =>
    obtain ⟨⟨hc, ho, hb⟩, h⟩ := List.forall_mem_cons.mp h
    refine closing_cons.mpr ⟨fun _ he => absurd he hb, ?_⟩
    have hd : q.nextDepth 0 c = 0 := by simp [nextDepth, ho, hb]
    rw [hd]
    exact ih (by simpa [quoted, feed, hc] using hq) h

theorem Quoting.body_nil (hq : q.Live) (ht : terminator ≠ []) : q.Body terminator [] := by
  refine ⟨hq, fun before after he _ hp => ?_⟩
  obtain ⟨rfl, rfl⟩ := List.nil_eq_append_iff.mp he
  exact ht (List.prefix_nil.mp hp)

theorem Quoting.body_cons : q.Body terminator (c :: cs) ↔
    (q.Live → ¬ terminator <+: c :: cs) ∧ (q.feed c).Body terminator cs := by
  constructor
  · intro h
    exact ⟨h.first [] _ rfl, h.live, fun before after he =>
      h.first (c :: before) after (by simp [he])⟩
  · rintro ⟨h₀, h⟩
    refine ⟨h.live, fun before after he => ?_⟩
    cases before with
    | nil =>
      obtain rfl : c :: cs = after := he
      exact h₀
    | cons d before =>
      obtain ⟨rfl, rfl⟩ := List.cons.inj he
      exact h.first before after rfl

/-- A terminator whose first character does not come back cannot begin before its place and end
behind it. -/
theorem prefix_of_prefix_append {a : Char} {after tail : List Char} (ha : a ∉ rest)
    (hne : after ≠ []) (h : a :: rest <+: after ++ (a :: rest ++ tail)) :
    a :: rest <+: after := by
  rcases List.prefix_or_prefix_of_prefix h (List.prefix_append ..) with h' | ⟨more, hm⟩
  · exact h'
  · rw [← hm, List.prefix_append_right_inj] at h
    cases more with
    | nil => exact ⟨[], by simpa using hm.symm⟩
    | cons d more =>
      obtain ⟨b, after, rfl⟩ := List.exists_cons_of_ne_nil hne
      obtain ⟨rfl, rfl⟩ := List.cons.inj hm
      exact absurd ((List.cons_prefix_cons.mp h).1 ▸ by simp) ha

theorem scriptExtent?_eq_some_iff {a : Char} (ha : a ∉ rest) :
    scriptExtent? (a :: rest) q n cs = some m ↔
      ∃ body tail, cs = body ++ (a :: rest ++ tail) ∧ m = n + body.length ∧
        q.Body (a :: rest) body := by
  induction cs generalizing q n with
  | nil => simp [scriptExtent?]
  | cons c cs ih =>
    have hif : (!q.quoted && !q.escaped && (a :: rest).isPrefixOf (c :: cs)) = true ↔
        q.Live ∧ a :: rest <+: c :: cs := by
      simp only [Live, Bool.and_eq_true, Bool.not_eq_true', List.isPrefixOf_iff_prefix]
    rw [scriptExtent?]
    split
    · next h =>
      obtain ⟨hq, tail, ht⟩ := hif.mp h
      constructor
      · intro he
        exact ⟨[], tail, ht.symm, (Option.some.inj he).symm, body_nil hq (by simp)⟩
      · rintro ⟨_ | ⟨d, body⟩, tail', he, rfl, hb⟩
        · rfl
        · have hp : a :: rest <+: d :: body ++ (a :: rest ++ tail') := he ▸ ⟨tail, ht⟩
          exact absurd (prefix_of_prefix_append ha (List.cons_ne_nil d body) hp)
            ((body_cons.mp hb).1 hq)
    · next h =>
      rw [ih]
      constructor
      · rintro ⟨body, tail, rfl, rfl, hb⟩
        refine ⟨c :: body, tail, rfl, by simp; omega, body_cons.mpr ⟨fun hq hp => ?_, hb⟩⟩
        exact h (hif.mpr ⟨hq, hp.trans (List.prefix_append (c :: body) _)⟩)
      · rintro ⟨_ | ⟨d, body⟩, tail, he, rfl, hb⟩
        · exact absurd (hif.mpr ⟨hb.live, tail, he.symm⟩) h
        · obtain ⟨rfl, rfl⟩ := List.cons.inj he
          exact ⟨body, tail, rfl, by simp; omega, (body_cons.mp hb).2⟩

end

end SceneMarkup
