import Mathlib.Data.List.Forall2
import SceneMarkup.Proofs.Text.Splitting
import SceneMarkup.Proofs.Text.Trimming
import SceneMarkup.Text.Lines

/-! # Blocks of lines

The margin that is found by comparing one indentation after the other is the longest that all lines
share. Taking it off keeps the lines apart and those with nothing but indentation empty, so that a
block keeps its lines, and each line what is behind the margin.
-/

namespace SceneMarkup.Text

variable {cs xs as bs : List Char} {line m : List Char} {block all indents : List (List Char)}

/-- The lines of a text without those of nothing but indentation at both ends. -/
def IsBlock (cs : List Char) (block : List (List Char)) : Prop :=
  ∃ front back, lines cs = front ++ block ++ back ∧ (∀ line ∈ front ++ back, isEmptyLine line) ∧
    (∀ line ∈ block.head?, isEmptyLine line = false) ∧
    ∀ line ∈ block.getLast?, isEmptyLine line = false

/-- The longest indentation with which all lines begin that have more than indentation. -/
structure IsMargin (block : List (List Char)) (m : List Char) : Prop where
  indent : ∀ c ∈ m, isIndent c
  leads : ∀ line ∈ block, isEmptyLine line = false → m <+: line
  longest : ∀ xs : List Char, (∀ c ∈ xs, isIndent c) →
    (∀ line ∈ block, isEmptyLine line = false → xs <+: line) → xs <+: m

/-- What is written for a line: nothing for one of nothing but indentation, else what is behind the
margin, without the blanks at its end. -/
def Undented (m line written : List Char) : Prop :=
  if isEmptyLine line then written = []
  else ∃ rest, line = m ++ rest ∧ written = dropWhileEnd isBlank rest

/-- The rows are what is written for the lines of a block, one for each. -/
def Outdented (cs : List Char) (rows : List (List Char)) : Prop :=
  ∃ block m, block ≠ [] ∧ IsBlock cs block ∧ IsMargin block m ∧ List.Forall₂ (Undented m) block rows

/-! ### Margins -/

theorem prefix_commonStart_iff : xs <+: commonStart as bs ↔ xs <+: as ∧ xs <+: bs := by
  induction xs generalizing as bs with
  | nil => simp
  | cons x xs ih =>
    cases as with
    | nil => simp [commonStart]
    | cons a as =>
      cases bs with
      | nil => simp [commonStart]
      | cons b bs =>
        rw [commonStart]
        split
        · next h =>
          subst h
          simp only [List.cons_prefix_cons, ih]
          tauto
        · next h =>
          simp only [List.cons_prefix_cons, List.prefix_nil, reduceCtorEq, false_iff, not_and]
          rintro ⟨rfl, -⟩ rfl
          exact absurd rfl h

theorem prefix_foldl_commonStart_iff :
    xs <+: indents.foldl commonStart as ↔ ∀ indent ∈ as :: indents, xs <+: indent := by
  induction indents generalizing as with
  | nil => simp
  | cons indent indents ih =>
    rw [List.foldl_cons, ih]
    simp [prefix_commonStart_iff, and_assoc]

theorem prefix_takeWhile_iff {p : Char → Bool} :
    xs <+: line.takeWhile p ↔ xs <+: line ∧ ∀ c ∈ xs, p c := by
  induction xs generalizing line with
  | nil => simp
  | cons x xs ih =>
    cases line with
    | nil => simp
    | cons c line =>
      rw [List.takeWhile_cons, List.cons_prefix_cons, List.forall_mem_cons]
      split
      · next h =>
        rw [List.cons_prefix_cons, ih]
        constructor
        · rintro ⟨rfl, hp, hs⟩
          exact ⟨⟨rfl, hp⟩, h, hs⟩
        · rintro ⟨⟨rfl, hp⟩, -, hs⟩
          exact ⟨rfl, hp, hs⟩
      · next h =>
        simp only [List.prefix_nil, reduceCtorEq, false_iff, not_and]
        rintro ⟨rfl, -⟩ hx
        exact absurd hx h

theorem prefix_margin_iff (h : ∃ line ∈ all, isEmptyLine line = false) :
    xs <+: margin all ↔
      (∀ c ∈ xs, isIndent c) ∧ ∀ line ∈ all, isEmptyLine line = false → xs <+: line := by
  obtain ⟨line, hm, he⟩ := h
  unfold margin
  split
  · next hn =>
    simp only [List.map_eq_nil_iff, List.filter_eq_nil_iff] at hn
    exact absurd (hn line hm) (by simp [he])
  · next indent indents hc =>
    rw [prefix_foldl_commonStart_iff, ← hc]
    simp only [List.forall_mem_map, List.mem_filter, Bool.not_eq_true', prefix_takeWhile_iff,
      and_imp]
    constructor
    · intro hp
      exact ⟨(hp line hm he).2, fun line hm he => (hp line hm he).1⟩
    · rintro ⟨hi, hp⟩ line hm he
      exact ⟨hp line hm he, hi⟩

/-- Lines of nothing but indentation have no part in the margin. -/
theorem isMargin_margin (h : ∃ line ∈ all, isEmptyLine line = false)
    (hb : ∀ line, isEmptyLine line = false → (line ∈ block ↔ line ∈ all)) :
    IsMargin block (margin all) := by
  obtain ⟨hi, hp⟩ := (prefix_margin_iff h).mp (List.prefix_refl _)
  constructor
  · exact hi
  · intro line hm he
    exact hp line ((hb line he).mp hm) he
  · intro xs hi hp
    rw [prefix_margin_iff h]
    exact ⟨hi, fun line hm he => hp line ((hb line he).mpr hm) he⟩

theorem IsMargin.exists_rest (h : IsMargin block m) (hl : line ∈ block)
    (he : isEmptyLine line = false) : ∃ rest, line = m ++ rest ∧ rest ≠ [] := by
  obtain ⟨rest, rfl⟩ := h.leads line hl he
  refine ⟨rest, rfl, ?_⟩
  rintro rfl
  rw [List.append_nil, isEmptyLine, List.all_eq_true.mpr h.indent] at he
  cases he

/-! ### Blocks -/

theorem isBlock_trimWhile (cs : List Char) : IsBlock cs (trimWhile isEmptyLine (lines cs)) := by
  obtain ⟨front, back, he, hm⟩ := exists_trimWhile isEmptyLine (lines cs)
  exact ⟨front, back, he, hm, head?_trimWhile isEmptyLine _, getLast?_dropWhileEnd isEmptyLine _⟩

theorem IsBlock.mem_iff (h : IsBlock cs block) (he : isEmptyLine line = false) :
    line ∈ block ↔ line ∈ lines cs := by
  obtain ⟨front, back, hl, hm, -⟩ := h
  have hn : line ∉ front ++ back := fun hc => by simp [hm line hc] at he
  rw [List.mem_append, not_or] at hn
  rw [hl, List.mem_append, List.mem_append]
  tauto

theorem IsBlock.lineFeed_not_mem (h : IsBlock cs block) (hl : line ∈ block) : '\n' ∉ line := by
  obtain ⟨front, back, he, -⟩ := h
  have hm : line ∈ lines cs := by simp [he, hl]
  intro hc
  exact absurd (exists_mem_splitOnP_iff.mp ⟨line, hm, hc⟩).2 (by decide)

theorem exists_line_of_mem {c : Char} (hc : c ∈ cs) (hn : c ≠ '\n') (hi : isIndent c = false) :
    ∃ line ∈ lines cs, isEmptyLine line = false := by
  have hs : ∃ line ∈ lines cs, c ∈ line :=
    exists_mem_splitOnP_iff.mpr ⟨hc, beq_eq_false_iff_ne.mpr hn⟩
  obtain ⟨line, hl, hm⟩ := hs
  refine ⟨line, hl, ?_⟩
  rw [isEmptyLine, List.all_eq_false]
  exact ⟨c, hm, by simp [hi]⟩

theorem blockLines_eq (h : ∃ line ∈ lines cs, isEmptyLine line = false) :
    blockLines cs = (trimWhile isEmptyLine (lines cs)).map fun line =>
      if isEmptyLine line then []
      else dropWhileEnd isBlank (line.drop (margin (lines cs)).length) := by
  have hmargin := isMargin_margin h fun _ _ => Iff.rfl
  -- Behind the margin there is more of every line that has more than indentation.
  have he : ∀ line ∈ lines cs,
      (if isEmptyLine line then [] else line.drop (margin (lines cs)).length).isEmpty =
        isEmptyLine line := by
    intro line hl
    split
    · next hb => rw [hb, List.isEmpty_nil]
    · next hb =>
      rw [Bool.not_eq_true] at hb
      obtain ⟨rest, hr, hne⟩ := hmargin.exists_rest hl hb
      rw [hb, hr, List.drop_left, List.isEmpty_eq_false_iff]
      exact hne
  have hne : trimWhile isEmptyLine (lines cs) ≠ [] := by
    obtain ⟨line, hl, hb⟩ := h
    exact List.ne_nil_of_mem (((isBlock_trimWhile cs).mem_iff hb).mpr hl)
  unfold blockLines undentedLines
  dsimp only
  rw [trimWhile_map he]
  split
  · next hn => exact absurd (List.map_eq_nil_iff.mp hn) hne
  · rw [List.map_map]
    refine List.map_congr_left fun line _ => ?_
    rw [Function.comp_apply, apply_ite (dropWhileEnd isBlank)]
    rfl

theorem outdented_blockLines (h : ∃ line ∈ lines cs, isEmptyLine line = false) :
    Outdented cs (blockLines cs) := by
  have hb := isBlock_trimWhile cs
  have hm := isMargin_margin h fun _ => hb.mem_iff
  refine ⟨_, _, ?_, hb, hm, ?_⟩
  · obtain ⟨line, hl, he⟩ := h
    exact List.ne_nil_of_mem ((hb.mem_iff he).mpr hl)
  · rw [blockLines_eq h, List.forall₂_map_right_iff, List.forall₂_same]
    intro line hl
    unfold Undented
    split
    · rfl
    · next he =>
      obtain ⟨rest, hr, -⟩ := hm.exists_rest hl (Bool.eq_false_iff.mpr he)
      refine ⟨rest, hr, ?_⟩
      nth_rewrite 1 [hr]
      rw [List.drop_left]

/-! ### What is written -/

theorem exists_rel_of_mem {α β : Type} {r : α → β → Prop} {as : List α} {bs : List β} {b : β}
    (h : List.Forall₂ r as bs) (hb : b ∈ bs) : ∃ a ∈ as, r a b := by
  induction h with
  | nil => cases hb
  | cons hr _ ih =>
    cases hb with
    | head => exact ⟨_, List.mem_cons_self, hr⟩
    | tail _ hb =>
      obtain ⟨a, ha, hr⟩ := ih hb
      exact ⟨a, List.mem_cons_of_mem _ ha, hr⟩

theorem Undented.no_blank_end (h : Undented m line xs) (hl : '\n' ∉ line) :
    '\n' ∉ xs ∧ ∀ c ∈ xs.getLast?, isBlank c = false := by
  unfold Undented at h
  split at h
  · subst h
    simp
  · obtain ⟨rest, rfl, rfl⟩ := h
    refine ⟨fun hc => hl (List.mem_append_right m ?_), getLast?_dropWhileEnd isBlank rest⟩
    exact (List.rdropWhile_prefix isBlank rest).subset hc

/-- Every row is a line of its own, with no blank at its end. -/
theorem Outdented.no_blank_end {rows : List (List Char)} (h : Outdented cs rows) :
    ∀ row ∈ rows, '\n' ∉ row ∧ ∀ c ∈ row.getLast?, isBlank c = false := by
  obtain ⟨block, m, -, hb, -, hw⟩ := h
  intro row hr
  obtain ⟨line, hl, hu⟩ := exists_rel_of_mem hw hr
  exact hu.no_blank_end (hb.lineFeed_not_mem hl)

end SceneMarkup.Text
