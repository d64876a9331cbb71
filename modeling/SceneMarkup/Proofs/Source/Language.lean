import Mathlib.Computability.Language
import SceneMarkup.Proofs.Source.Refusal
import SceneMarkup.Proofs.Source.Standing

/-! # The languages of the patterns

The pattern of a token is a regular expression, and at each place of a source the token takes one of
the texts of its language that begin there, if there is any: the shortest comment, the only literal,
and of everything else the longest text.
-/

namespace SceneMarkup

open Computability

def oneOf (p : Char → Prop) : Language Char := {cs | ∃ c, p c ∧ cs = [c]}

namespace Token

def Letter (c : Char) : Prop := ('A' ≤ c ∧ c ≤ 'Z') ∨ ('a' ≤ c ∧ c ≤ 'z')

/-- The class `[A-Za-z0-9_]`. -/
def WordLetter (c : Char) : Prop := Letter c ∨ ('0' ≤ c ∧ c ≤ '9') ∨ c = '_'

def words : Language Char := oneOf WordLetter * (oneOf WordLetter)∗

/-- A character that is neither this quote nor a backslash, or a backslash and any character. -/
def pieces (quote : Char) : Language Char :=
  oneOf (fun c => c ≠ quote ∧ c ≠ '\\') + {['\\']} * oneOf fun _ => True

/-- What may stand behind an opening quote, up to and with the closing one. -/
def literals (quote : Char) : Language Char := (pieces quote)∗ * {[quote]}

/-- The language of the pattern of a token. -/
def language : Token → Language Char
  | blanks => (oneOf fun c => Text.isBlank c)∗
  | tagName => oneOf Letter * (oneOf WordLetter)∗
  | identifier => words * ({['.']} * words)∗
  | comment => {"!--".toList} * (oneOf fun _ => True)∗ * {"-->".toList}
  | doubleQuoted => literals '"'
  | singleQuoted => literals '\''

/-- The texts of the language of a token that begin a text. -/
def heads (t : Token) (cs : List Char) : Set (List Char) := {text | text ∈ t.language ∧ text <+: cs}

/-- The one of these texts that the token takes: of comments the shortest, of literals the only one,
of everything else the longest. -/
def Takes (t : Token) (cs text : List Char) : Prop :=
  text ∈ t.heads cs ∧ ∀ other ∈ t.heads cs,
    match t with
    | comment => text.length ≤ other.length
    | doubleQuoted | singleQuoted => other = text
    | blanks | tagName | identifier => other.length ≤ text.length

end Token

/-! ### Membership -/

section

variable {p : Char → Prop} {L : Language Char} {c : Char} {cs ds : List Char}

theorem mem_oneOf_mul : cs ∈ oneOf p * L ↔ ∃ c ds, cs = c :: ds ∧ p c ∧ ds ∈ L := by
  rw [Language.mem_mul]
  constructor
  · rintro ⟨_, ⟨c, hc, rfl⟩, ds, hd, rfl⟩
    exact ⟨c, ds, rfl, hc, hd⟩
  · rintro ⟨c, ds, rfl, hc, hd⟩
    exact ⟨[c], ⟨c, hc, rfl⟩, ds, hd, rfl⟩

theorem mem_singleton_mul : cs ∈ ({ds} : Language Char) * L ↔ ∃ es ∈ L, cs = ds ++ es := by
  rw [Language.mem_mul]
  constructor
  · rintro ⟨_, rfl, es, he, rfl⟩
    exact ⟨es, he, rfl⟩
  · rintro ⟨es, he, rfl⟩
    exact ⟨ds, rfl, es, he, rfl⟩

theorem mem_mul_singleton : cs ∈ L * ({ds} : Language Char) ↔ ∃ es ∈ L, cs = es ++ ds := by
  rw [Language.mem_mul]
  constructor
  · rintro ⟨es, he, _, rfl, rfl⟩
    exact ⟨es, he, rfl⟩
  · rintro ⟨es, he, rfl⟩
    exact ⟨es, he, ds, rfl, rfl⟩

theorem append_mem_kstar (hc : cs ∈ L) (hd : ds ∈ L∗) : cs ++ ds ∈ L∗ := by
  rw [← Language.one_add_self_mul_kstar_eq_kstar]
  exact .inr (Language.append_mem_mul hc hd)

@[elab_as_elim]
theorem kstar_induction {motive : (cs : List Char) → cs ∈ L∗ → Prop}
    (nil : motive [] (Language.nil_mem_kstar L))
    (append : ∀ (as bs : List Char) (ha : as ∈ L) (hb : bs ∈ L∗), motive bs hb →
      motive (as ++ bs) (append_mem_kstar ha hb))
    (h : cs ∈ L∗) : motive cs h := by
  obtain ⟨parts, rfl, hp⟩ := Language.mem_kstar.mp h
  induction parts with
  | nil => exact nil
  | cons part parts ih =>
    obtain ⟨ha, hp⟩ := List.forall_mem_cons.mp hp
    exact append part _ ha _ (ih hp (Language.join_mem_kstar hp))

theorem mem_kstar_oneOf : cs ∈ (oneOf p)∗ ↔ ∀ c ∈ cs, p c := by
  constructor
  · intro h
    induction h using kstar_induction with
    | nil => exact List.forall_mem_nil p
    | append as bs ha _ ih =>
      obtain ⟨c, hc, rfl⟩ := ha
      exact List.forall_mem_cons.mpr ⟨hc, ih⟩
  · intro h
    induction cs with
    | nil => exact Language.nil_mem_kstar _
    | cons c cs ih =>
      obtain ⟨hc, hcs⟩ := List.forall_mem_cons.mp h
      have hp : [c] ∈ oneOf p := ⟨c, hc, rfl⟩
      exact append_mem_kstar hp (ih hcs)

end

namespace Token

variable {t : Token} {c quote : Char} {n : Nat} {cs text other rest body : List Char}

theorem isAlpha_iff : c.isAlpha ↔ Letter c := by
  have upper : c.isUpper ↔ 'A' ≤ c ∧ c ≤ 'Z' := decide_eq_true_iff
  have lower : c.isLower ↔ 'a' ≤ c ∧ c ≤ 'z' :=
    Bool.and_eq_true_iff.trans (and_congr decide_eq_true_iff decide_eq_true_iff)
  exact Bool.or_eq_true_iff.trans (or_congr upper lower)

theorem isWordChar_iff : isWordChar c ↔ WordLetter c := by
  simp [WordLetter, isWordChar, Char.isAlphanum, isAlpha_iff, Char.isDigit, Char.le_def, or_assoc]

theorem mem_words_iff : text ∈ words ↔ IsWord text := by
  simp only [words, mem_oneOf_mul, mem_kstar_oneOf, IsWord, isWordChar_iff]
  cases text <;> simp

theorem IsWord.append_of_mem_kstar (hw : IsWord text) (h : rest ∈ ({['.']} * words)∗) :
    IsIdentifier (text ++ rest) := by
  induction h using kstar_induction generalizing text with
  | nil => simpa using IsIdentifier.word hw
  | append as bs ha _ ih =>
    obtain ⟨word, hw', rfl⟩ := mem_singleton_mul.mp ha
    simpa using IsIdentifier.dotted hw (ih (mem_words_iff.mp hw'))

theorem mem_identifier_iff : text ∈ identifier.language ↔ IsIdentifier text := by
  rw [language, Language.mem_mul]
  constructor
  · rintro ⟨word, hw, rest, hr, rfl⟩
    exact (mem_words_iff.mp hw).append_of_mem_kstar hr
  · intro h
    induction h with
    | word hw => exact ⟨_, mem_words_iff.mpr hw, [], Language.nil_mem_kstar _, by simp⟩
    | dotted hw _ ih =>
      obtain ⟨word, hw', rest, hr, rfl⟩ := ih
      have hd : '.' :: word ∈ ({['.']} : Language Char) * words :=
        mem_singleton_mul.mpr ⟨word, hw', rfl⟩
      exact ⟨_, mem_words_iff.mpr hw, _, append_mem_kstar hd hr, by simp⟩

theorem mem_kstar_pieces_iff : body ∈ (pieces quote)∗ ↔ IsLiteral quote body := by
  constructor
  · intro h
    induction h using kstar_induction with
    | nil => exact .nil
    | append as bs ha _ ih =>
      rcases ha with ⟨c, hc, rfl⟩ | ha
      · exact .plain hc.1 hc.2 ih
      · obtain ⟨_, ⟨c, -, rfl⟩, rfl⟩ := mem_singleton_mul.mp ha
        exact .escaped ih
  · intro h
    induction h with
    | nil => exact Language.nil_mem_kstar _
    | @plain c _ hc hb _ ih =>
      have hd : [c] ∈ pieces quote := .inl ⟨c, ⟨hc, hb⟩, rfl⟩
      exact append_mem_kstar hd ih
    | @escaped c _ _ ih =>
      have hd : ['\\', c] ∈ pieces quote :=
        .inr (mem_singleton_mul.mpr ⟨[c], ⟨c, trivial, rfl⟩, rfl⟩)
      exact append_mem_kstar hd ih

theorem mem_literals_iff :
    text ∈ literals quote ↔ ∃ body, text = body ++ [quote] ∧ IsLiteral quote body := by
  simp only [literals, mem_mul_singleton, mem_kstar_pieces_iff, and_comm]

theorem mem_language_iff : text ∈ t.language ↔ t.Matches text := by
  cases t with
  | blanks => exact mem_kstar_oneOf
  | tagName =>
    simp only [language, mem_oneOf_mul, mem_kstar_oneOf, Matches, IsTagName, isAlpha_iff,
      isWordChar_iff]
  | identifier => exact mem_identifier_iff
  | comment =>
    simp only [language, mem_mul_singleton, mem_singleton_mul, mem_kstar_oneOf, Matches]
    simp [commentStart, commentEnd]
  | doubleQuoted | singleQuoted => exact mem_literals_iff

/-! ### What tokens take -/

theorem mem_heads_iff : text ∈ t.heads cs ↔ t.Matches text ∧ text <+: cs :=
  and_congr_left' mem_language_iff

theorem eq_of_prefix_of_length (h : text <+: cs) (h' : other <+: cs)
    (hl : text.length = other.length) : text = other :=
  (List.prefix_of_prefix_length_le h h' hl.le).eq_of_length hl

theorem length_le_of_longest (h : Longest t.Matches text rest) (ho : other ∈ t.heads (text ++ rest)) :
    other.length ≤ text.length := by
  obtain ⟨hm, hp⟩ := mem_heads_iff.mp ho
  by_contra! hlt
  obtain ⟨more, rfl⟩ := List.prefix_of_prefix_length_le (List.prefix_append text rest) hp hlt.le
  refine h.2 more ?_ ((List.prefix_append_right_inj text).mp hp) hm
  rintro rfl
  simp at hlt

theorem exists_longest_of_extent?_blanks (h : blanks.extent? cs = some n) :
    ∃ text rest, cs = text ++ rest ∧ text.length = n ∧ Longest Blanks text rest := by
  refine ⟨cs.takeWhile Text.isBlank, cs.dropWhile Text.isBlank, by simp, Option.some.inj h, ?_⟩
  refine .of_head (fun c hc => List.mem_takeWhile_imp hc) fun c ds hd more _ hb => ?_
  have hc : Text.isBlank c = false := by
    simpa [hd] using List.head?_dropWhile_not Text.isBlank cs
  rw [hb c (by simp)] at hc
  cases hc

theorem length_le_of_isCommentBody (hb : IsCommentBody body)
    (ho : other ∈ comment.heads (commentStart ++ body ++ commentEnd ++ rest)) :
    (commentStart ++ body ++ commentEnd).length ≤ other.length := by
  obtain ⟨⟨body', rfl⟩, hp⟩ := mem_heads_iff.mp ho
  by_contra! hlt
  obtain ⟨after, ha⟩ := List.prefix_of_prefix_length_le hp (List.prefix_append ..) hlt.le
  simp only [List.append_assoc, List.append_cancel_left_eq] at ha
  obtain rfl := hb body' after (by simp [← ha])
  simp [← ha] at hlt

theorem matches_of_ofQuote?_iff (ht : ofQuote? quote = some t) :
    t.Matches text ↔ ∃ body, text = body ++ [quote] ∧ IsLiteral quote body := by
  unfold ofQuote? at ht
  split at ht <;> cases ht <;> rfl

theorem extent?_of_mem_heads (ht : ofQuote? quote = some t) (h : text ∈ t.heads cs) :
    t.extent? cs = some text.length := by
  obtain ⟨hm, rest, rfl⟩ := mem_heads_iff.mp h
  exact (extent?_ofQuote?_eq_some_iff ht).mpr
    ⟨text, rest, rfl, rfl, (matches_of_ofQuote?_iff ht).mp hm⟩

/-- What ends a literal is the only text of its language that begins here. -/
theorem exists_of_extent?_literal (ht : ofQuote? quote = some t) (h : t.extent? cs = some n) :
    ∃ text, text.length = n ∧ text ∈ t.heads cs ∧ ∀ other ∈ t.heads cs, other = text := by
  obtain ⟨text, rest, rfl, rfl, hb⟩ := (extent?_ofQuote?_eq_some_iff ht).mp h
  have hm : text ∈ t.heads (text ++ rest) :=
    mem_heads_iff.mpr ⟨(matches_of_ofQuote?_iff ht).mpr hb, List.prefix_append ..⟩
  refine ⟨text, rfl, hm, fun other ho => ?_⟩
  have hl := (extent?_of_mem_heads ht ho).symm.trans h
  exact eq_of_prefix_of_length ho.2 hm.2 (Option.some.inj hl)

theorem takes_of_extent? (h : t.extent? cs = some n) : ∃ text, text.length = n ∧ t.Takes cs text := by
  have mem {text rest : List Char} (hm : t.Matches text) : text ∈ t.heads (text ++ rest) :=
    mem_heads_iff.mpr ⟨hm, List.prefix_append ..⟩
  cases t with
  | blanks =>
    obtain ⟨text, rest, rfl, rfl, hl⟩ := exists_longest_of_extent?_blanks h
    exact ⟨text, rfl, mem hl.1, fun other => length_le_of_longest hl⟩
  | tagName =>
    obtain ⟨text, rest, rfl, rfl, hl⟩ := extent?_tagName_eq_some_iff.mp h
    exact ⟨text, rfl, mem hl.1, fun other => length_le_of_longest hl⟩
  | identifier =>
    obtain ⟨text, rest, rfl, rfl, hl⟩ := extent?_identifier_eq_some_iff.mp h
    exact ⟨text, rfl, mem hl.1, fun other => length_le_of_longest hl⟩
  | comment =>
    obtain ⟨_, rest, rfl, rfl, body, rfl, hb⟩ := extent?_comment_eq_some_iff.mp h
    exact ⟨_, rfl, mem ⟨body, rfl⟩, fun other => length_le_of_isCommentBody hb⟩
  | doubleQuoted => exact exists_of_extent?_literal (rfl : ofQuote? '"' = some doubleQuoted) h
  | singleQuoted => exact exists_of_extent?_literal (rfl : ofQuote? '\'' = some singleQuoted) h

theorem Takes.eq (h : t.Takes cs text) (h' : t.Takes cs other) : text = other := by
  have ho := h.2 other h'.1
  have ht := h'.2 text h.1
  refine eq_of_prefix_of_length h.1.2 h'.1.2 ?_
  cases t with
  | blanks | tagName | identifier => exact Nat.le_antisymm ht ho
  | comment => exact Nat.le_antisymm ho ht
  | doubleQuoted | singleQuoted => exact congrArg List.length ht

theorem extent?_eq_some_iff_takes :
    t.extent? cs = some n ↔ ∃ text, text.length = n ∧ t.Takes cs text := by
  refine ⟨takes_of_extent?, ?_⟩
  rintro ⟨text, rfl, h⟩
  cases he : t.extent? cs with
  | none => exact absurd (mem_heads_iff.mp h.1).1 (not_matches_of_extent? he h.1.2)
  | some m =>
    obtain ⟨text', rfl, h'⟩ := takes_of_extent? he
    rw [h.eq h']

theorem extent?_eq_none_iff : t.extent? cs = none ↔ t.heads cs = ∅ := by
  rw [Set.eq_empty_iff_forall_notMem]
  constructor
  · intro h text ht
    obtain ⟨hm, hp⟩ := mem_heads_iff.mp ht
    exact not_matches_of_extent? h hp hm
  · intro h
    by_contra! hne
    obtain ⟨n, hn⟩ := Option.ne_none_iff_exists'.mp hne
    obtain ⟨text, -, ht⟩ := takes_of_extent? hn
    exact h text ht.1

theorem IsTail.exists_of_append (h : IsTail (text ++ '.' :: rest)) :
    ∃ c ds, rest = c :: ds ∧ isWordChar c := by
  generalize he : text ++ '.' :: rest = cs at h
  induction h generalizing text with
  | nil => simp at he
  | word hc h ih =>
    cases text with
    | nil =>
      obtain ⟨rfl, -⟩ := List.cons.inj he
      simp at hc
    | cons d text => exact ih (List.cons.inj he).2
  | dotted hc h ih =>
    match text, he with
    | [], he => exact ⟨_, _, (List.cons.inj he).2, hc⟩
    | [_], he =>
      obtain ⟨rfl, -⟩ := List.cons.inj (List.cons.inj he).2
      simp at hc
    | _ :: _ :: text, he => exact ih (List.cons.inj (List.cons.inj he).2).2

/-- A point without a word behind it does not belong to an identifier. -/
theorem longest_identifier_dot (h : IsIdentifier text) (hr : ∀ c ∈ rest.head?, ¬ isWordChar c) :
    Longest IsIdentifier text ('.' :: rest) := by
  refine .of_head h fun c cs hc more hm hi => ?_
  obtain ⟨rfl, rfl⟩ := List.cons.inj hc
  obtain ⟨d, text, rfl⟩ := List.exists_cons_of_ne_nil h.ne_nil
  obtain ⟨e, ds, rfl, he⟩ := (isIdentifier_cons.mp hi).2.exists_of_append
  obtain ⟨after, rfl⟩ := hm
  exact hr e rfl he

end Token

namespace Scanner

variable {s s' : Scanner} {t : Token} {source text : List Char} {n : Nat}

theorem take?_eq_some_iff :
    s.take? t = some (text, s') ↔ t.Takes s.rest text ∧ s' = s.skip text.length := by
  simp only [take?, Option.map_eq_some_iff, Token.extent?_eq_some_iff_takes, Prod.mk.injEq]
  constructor
  · rintro ⟨_, ⟨text', rfl, ht⟩, rfl, rfl⟩
    rw [← List.prefix_iff_eq_take.mp ht.1.2]
    exact ⟨ht, rfl⟩
  · rintro ⟨ht, rfl⟩
    exact ⟨_, ⟨text, rfl, ht⟩, (List.prefix_iff_eq_take.mp ht.1.2).symm, rfl⟩

theorem take?_eq_none_iff : s.take? t = none ↔ t.heads s.rest = ∅ := by
  rw [take?, Option.map_eq_none_iff, Token.extent?_eq_none_iff]

/-- At every offset of a source a token takes the text that its language gives it there, and none
exactly where no text of its language begins. Blanks are always taken, a comment has at least six
characters, and a point without a word behind it ends an identifier. -/
theorem tokens_follow_language (hs : s.StandsAt source n) :
    (∀ t text s', s.take? t = some (text, s') ↔
      t.Takes (source.drop n) text ∧ s' = s.skip text.length) ∧
    (∀ t, s.take? t = none ↔ t.heads (source.drop n) = ∅) ∧
    (∃ text, s.take? .blanks = some (text, s.skipBlanks)) ∧
    (∀ text s', s.take? .comment = some (text, s') → 6 ≤ text.length) ∧
    ∀ text rest, text ∈ Token.identifier.language → (∀ c ∈ rest.head?, ¬ Token.WordLetter c) →
      source.drop n = text ++ '.' :: rest →
        s.take? .identifier = some (text, s.skip text.length) := by
  rw [← hs.rest]
  refine ⟨fun t text s' => take?_eq_some_iff, fun t => take?_eq_none_iff, ⟨_, rfl⟩,
    fun text s' h => ?_, fun text rest hi hr he => ?_⟩
  · obtain ⟨body, rfl⟩ := (Token.mem_heads_iff.mp (take?_eq_some_iff.mp h).1.1).1
    simp [Token.commentStart, Token.commentEnd]
  · have hl : Longest Token.IsIdentifier text ('.' :: rest) :=
      Token.longest_identifier_dot (Token.mem_identifier_iff.mp hi) fun c hc =>
        mt Token.isWordChar_iff.mp (hr c hc)
    refine take?_eq_some_iff.mpr ⟨⟨⟨hi, '.' :: rest, he.symm⟩, fun other ho => ?_⟩, rfl⟩
    exact Token.length_le_of_longest (t := .identifier) hl (he ▸ ho)

/-- Of two points in a row, and of a point at the end, an identifier takes none. -/
theorem tokens_follow_language_dotted :
    (ofSource "a..b".toList).StandsAt "a..b".toList 0 ∧
    (ofSource "a.".toList).StandsAt "a.".toList 0 ∧
    (∃ s', (ofSource "a..b".toList).take? .identifier = some (['a'], s')) ∧
    ∃ s', (ofSource "a.".toList).take? .identifier = some (['a'], s') := by
  have hi : ['a'] ∈ Token.identifier.language :=
    Token.mem_identifier_iff.mpr (.word ⟨List.cons_ne_nil _ _, List.forall_mem_singleton.mpr rfl⟩)
  have hd : ¬ Token.WordLetter '.' := mt Token.isWordChar_iff.mpr (by decide)
  have h₁ := standsAt_ofSource "a..b".toList
  have h₂ := standsAt_ofSource "a.".toList
  refine ⟨h₁, h₂, ⟨_, (tokens_follow_language h₁).2.2.2.2 _ ['.', 'b'] hi ?_ rfl⟩,
    ⟨_, (tokens_follow_language h₂).2.2.2.2 _ [] hi nofun rfl⟩⟩
  rintro _ ⟨⟩
  exact hd

end Scanner

end SceneMarkup
