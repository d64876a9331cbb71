import Mathlib.Data.List.Basic
import Mathlib.Data.List.Induction
import Mathlib.Tactic.Common
import SceneMarkup.Diagnosis.Excerpt
import SceneMarkup.Proofs.Source.Location
import SceneMarkup.Proofs.Text.Splitting

/-! # Excerpts by lines

An excerpt is made by walking from line feed to line feed, up and down from a place. It shows what
the numbered lines of the source tell: those around the line of the place, and under that line a
caret where the rest of it begins.
-/

namespace SceneMarkup.Excerpt

variable {source : List Char} {above below : List (List Char)} {line next before behind : List Char}
  {mark : Char} {width i : Nat} {text : List Char}

/-! ### A line among the lines -/

/-- A source is the lines above a line, the line, and the lines below it. -/
structure Laid (source : List Char) (above : List (List Char)) (line : List Char)
    (below : List (List Char)) : Prop where
  eq : source = above.flatMap (· ++ ['\n']) ++ (line ++ below.flatMap ('\n' :: ·))
  unbroken : ∀ text ∈ above ++ line :: below, '\n' ∉ text

theorem length_flatMap_concat (above : List (List Char)) :
    (above.flatMap (· ++ ['\n'])).length = Text.extent above := by
  induction above with
  | nil => rfl
  | cons text above ih =>
    rw [List.flatMap_cons, List.length_append, ih, List.length_append, List.length_singleton,
      Text.extent]

theorem count_flatMap_concat (h : ∀ text ∈ above, '\n' ∉ text) :
    (above.flatMap (· ++ ['\n'])).count '\n' = above.length := by
  induction above with
  | nil => rfl
  | cons text above ih =>
    obtain ⟨ht, ha⟩ := List.forall_mem_cons.mp h
    rw [List.flatMap_cons, List.count_append, List.count_append, ih ha,
      List.count_eq_zero_of_not_mem ht, List.count_singleton_self, List.length_cons]
    omega

theorem lastLine_flatMap_concat (above : List (List Char)) :
    lastLine (above.flatMap (· ++ ['\n'])) = 0 := by
  cases above using List.reverseRecOn with
  | nil => rfl
  | append_singleton above text =>
    rw [List.flatMap_append, List.flatMap_singleton, ← List.append_assoc, lastLine_concat,
      if_pos rfl]

theorem exists_flatMap_concat (cs : List Char) : ∃ above before,
    cs = above.flatMap (· ++ ['\n']) ++ before ∧ ∀ text ∈ above ++ [before], '\n' ∉ text := by
  induction cs using List.reverseRecOn with
  | nil => exact ⟨[], [], by simp⟩
  | append_singleton cs c ih =>
    obtain ⟨above, before, rfl, h⟩ := ih
    by_cases hc : c = '\n'
    · refine ⟨above ++ [before], [], by simp [hc], ?_⟩
      simpa [or_imp, forall_and] using h
    · refine ⟨above, before ++ [c], by simp, ?_⟩
      simpa [or_imp, forall_and, Ne.symm hc] using h

theorem exists_flatMap_cons (cs : List Char) : ∃ behind below,
    cs = behind ++ below.flatMap ('\n' :: ·) ∧ ∀ text ∈ behind :: below, '\n' ∉ text := by
  induction cs with
  | nil => exact ⟨[], [], by simp⟩
  | cons c cs ih =>
    obtain ⟨behind, below, rfl, h⟩ := ih
    by_cases hc : c = '\n'
    · refine ⟨[], behind :: below, by simp [hc], ?_⟩
      simpa using h
    · refine ⟨c :: behind, below, by simp, ?_⟩
      simpa [Ne.symm hc] using h

/-- Every place stands in a line. -/
theorem exists_laid {o : Nat} (h : o ≤ source.length) : ∃ above before behind below,
    Laid source above (before ++ behind) below ∧ o = Text.extent above + before.length := by
  obtain ⟨above, before, ht, hb⟩ := exists_flatMap_concat (source.take o)
  obtain ⟨behind, below, hd, hw⟩ := exists_flatMap_cons (source.drop o)
  refine ⟨above, before, behind, below, ⟨?_, ?_⟩, ?_⟩
  · rw [← List.take_append_drop o source, ht, hd]
    simp
  · rw [List.forall_mem_append] at hb ⊢
    rw [List.forall_mem_cons] at hw ⊢
    refine ⟨hb.1, ?_, hw.2⟩
    simpa [not_or] using And.intro (hb.2 before (by simp)) hw.1
  · rw [← length_flatMap_concat, ← List.length_append, ← ht, List.length_take, Nat.min_eq_left h]

namespace Laid

theorem concat_iff :
    Laid source (above ++ [line]) next below ↔ Laid source above line (next :: below) := by
  constructor
  · rintro ⟨he, hu⟩
    exact ⟨by simpa using he, by simpa using hu⟩
  · rintro ⟨he, hu⟩
    exact ⟨by simpa using he, by simpa using hu⟩

theorem lines_eq (h : Laid source above line below) :
    Text.lines source = above ++ line :: below := by
  obtain ⟨rfl, hu⟩ := h
  induction above with
  | nil =>
    rw [List.flatMap_nil, List.nil_append, List.nil_append]
    induction below generalizing line with
    | nil =>
      rw [List.flatMap_nil, List.append_nil]
      exact Text.lines_of_not_mem (hu line (by simp))
    | cons next below ih =>
      obtain ⟨hl, hb⟩ := List.forall_mem_cons.mp hu
      rw [List.flatMap_cons, List.cons_append, Text.lines_append_cons hl, ih hb]
  | cons text above ih =>
    obtain ⟨ht, ha⟩ := List.forall_mem_cons.mp hu
    rw [List.flatMap_cons, List.append_assoc, List.append_assoc, List.singleton_append,
      Text.lines_append_cons ht, ih ha, List.cons_append]

theorem not_mem (h : Laid source above (before ++ behind) below) :
    '\n' ∉ before ∧ '\n' ∉ behind := by
  simpa [not_or] using h.unbroken (before ++ behind) (by simp)

/-! What stands in front of a place, and what behind it. -/

theorem take_eq (h : Laid source above (before ++ behind) below) :
    source.take (Text.extent above + before.length) = above.flatMap (· ++ ['\n']) ++ before := by
  rw [h.eq, ← length_flatMap_concat, ← List.length_append, List.append_assoc before,
    ← List.append_assoc _ before, List.take_left]

theorem drop_eq (h : Laid source above (before ++ behind) below) :
    source.drop (Text.extent above + before.length) = behind ++ below.flatMap ('\n' :: ·) := by
  rw [h.eq, ← length_flatMap_concat, ← List.length_append, List.append_assoc before,
    ← List.append_assoc _ before, List.drop_left]

theorem lineBegin_eq (h : Laid source above (before ++ behind) below) :
    lineBegin source (Text.extent above + before.length) = Text.extent above := by
  have hn : '\n' ∉ before.reverse := by simpa using h.not_mem.1
  have hl : lastLine (above.flatMap (· ++ ['\n']) ++ before) = before.length := by
    rw [lastLine, List.reverse_append, List.idxOf_append_of_notMem hn, List.length_reverse,
      ← lastLine, lastLine_flatMap_concat, Nat.add_zero]
  change lineStart (source.take _) = _
  rw [h.take_eq, lineStart, hl, List.length_append, length_flatMap_concat, Nat.add_sub_cancel]

theorem lineEnd_eq (h : Laid source above (before ++ behind) below) :
    lineEnd source (Text.extent above + before.length) =
      Text.extent above + (before ++ behind).length := by
  have hb : (below.flatMap ('\n' :: ·)).idxOf '\n' = 0 := by
    cases below <;> simp
  rw [lineEnd, h.drop_eq, List.idxOf_append_of_notMem h.not_mem.2, hb, List.length_append]
  omega

theorem line_eq (h : Laid source above (before ++ behind) below) :
    (Location.start.pass (source.take (Text.extent above + before.length))).line =
      above.length + 1 := by
  have hc := count_flatMap_concat (List.forall_mem_append.mp h.unbroken).1
  rw [h.take_eq, Location.line_start_pass, List.count_append, hc,
    List.count_eq_zero_of_not_mem h.not_mem.1, Nat.add_zero, Nat.add_comm]

theorem column_eq (h : Laid source above (before ++ behind) below) :
    (Location.start.pass (source.take (Text.extent above + before.length))).column =
      before.length + 1 := by
  have hb := h.lineBegin_eq
  change lineStart (source.take _) = _ at hb
  rw [Location.column_start_pass, hb, h.take_eq, List.length_append, length_flatMap_concat,
    Nat.add_sub_cancel_left]

theorem takeWhile_drop (h : Laid source above (before ++ behind) below) :
    (source.drop (Text.extent above + before.length)).takeWhile (· != '\n') = behind := by
  have hb : ∀ c ∈ behind, (c != '\n') = true := by
    intro c hc
    rw [bne_iff_ne]
    rintro rfl
    exact h.not_mem.2 hc
  rw [h.drop_eq, List.takeWhile_append_of_pos hb]
  cases below <;> simp

theorem extract_eq (h : Laid source above (before ++ behind) below) :
    source.extract (Text.extent above) (Text.extent above + before.length) = before := by
  rw [List.extract_eq_take_drop, ← List.drop_take, h.take_eq, ← length_flatMap_concat,
    List.drop_left]

theorem extract_line (h : Laid source above line below) :
    source.extract (Text.extent above) (Text.extent above + line.length) = line := by
  rw [← List.append_nil line] at h
  exact h.extract_eq

end Laid

/-! ### Lines as they are shown -/

/-- A text with four spaces for every tab. -/
def widened (text : List Char) : List Char :=
  text.flatMap fun c => if c = '\t' then [' ', ' ', ' ', ' '] else [c]

/-- A line behind its mark and its right-justified number. -/
def shown (mark : Char) (width i : Nat) (text : List Char) : List Char :=
  [mark, ' '] ++ (Nat.toDigits 10 i).leftpad width ' ' ++ [' ', '|', ' '] ++ widened text

/-- Those of the lines numbered from `start` on whose numbers are from `first` to `last`, as they
are shown. -/
def listing (start : Nat) (lines : List (List Char)) (width first last : Nat) : List (List Char) :=
  ((lines.zipIdx start).filter fun line => first ≤ line.2 && line.2 ≤ last).map fun line =>
    shown ' ' width line.2 line.1

/-- How many lines a source has. The empty line behind a line feed at its end is none. -/
def lineCount (source : List Char) : Nat :=
  if source.getLast? = some '\n' then (Text.lines source).length - 1
  else (Text.lines source).length

theorem toList_toString (i : Nat) : (toString (i : Int)).toList = Nat.toDigits 10 i := by
  rw [Int.toString_eq_repr, Int.repr_eq_if, if_pos (Int.natCast_nonneg i), Int.toNat_natCast,
    Nat.toList_repr]

theorem row_eq (mark : Char) (width i : Nat) (text : List Char) :
    row mark width i text = shown mark width i text := by
  rw [row, numbered, toList_toString]
  rfl

theorem widened_append (before behind : List Char) :
    widened (before ++ behind) = widened before ++ widened behind := List.flatMap_append

theorem shown_append : shown mark width i (before ++ behind) =
    shown mark width i before ++ widened behind := by
  rw [shown, widened_append, ← List.append_assoc, ← shown]

theorem length_widened (text : List Char) :
    (widened text).length = text.length + 3 * text.count '\t' := by
  induction text with
  | nil => rfl
  | cons c text ih =>
    rw [widened, List.flatMap_cons, List.length_append, ← widened, ih, List.count_cons]
    by_cases hc : c = '\t'
    · simp [hc]
      omega
    · simp [hc]
      omega

theorem length_toDigits_le {j : Nat} (h : i ≤ j) :
    (Nat.toDigits 10 i).length ≤ (Nat.toDigits 10 j).length := by
  have hp : 0 < (Nat.toDigits 10 j).length := Nat.length_toDigits_pos
  have hj := (Nat.length_toDigits_le_iff (b := 10) (by decide) hp).mp Nat.le.refl
  exact (Nat.length_toDigits_le_iff (by decide) hp).mpr (Nat.lt_of_le_of_lt h hj)

theorem not_mem_toDigits {c : Char} (h : c.isDigit = false) : c ∉ Nat.toDigits 10 i := by
  intro hm
  rw [Nat.isDigit_of_mem_toDigits (by decide) (by decide) hm] at h
  exact Bool.noConfusion h

theorem length_shown (hd : (Nat.toDigits 10 i).length ≤ width) :
    (shown mark width i text).length = width + 5 + (widened text).length := by
  simp only [shown, List.leftpad, List.length_append, List.length_cons, List.length_nil,
    List.length_replicate]
  omega

theorem idxOf_shown (hm : mark ≠ '|') (hd : (Nat.toDigits 10 i).length ≤ width) :
    (shown mark width i text).idxOf '|' = width + 3 := by
  have hn : '|' ∉ [mark, ' '] ++ (Nat.toDigits 10 i).leftpad width ' ' ++ [' '] := by
    simp [Ne.symm hm, not_mem_toDigits (c := '|') (by decide)]
  have hs : shown mark width i text =
      [mark, ' '] ++ (Nat.toDigits 10 i).leftpad width ' ' ++ [' '] ++
        '|' :: ' ' :: widened text := by
    simp [shown]
  rw [hs, List.idxOf_append_of_notMem hn, List.idxOf_cons_self]
  simp [List.leftpad]
  omega

theorem not_mem_shown (hm : mark ≠ '\n') (ht : '\n' ∉ text) :
    '\n' ∉ shown mark width i text := by
  have hw : '\n' ∉ widened text := by
    intro hc
    obtain ⟨c, hc, hw⟩ := List.mem_flatMap.mp hc
    split at hw
    · simp at hw
    · exact ht (List.mem_singleton.mp hw ▸ hc)
  simp [shown, hw, Ne.symm hm, not_mem_toDigits (c := '\n') (by decide)]

/-! ### Listings -/

section Listing

variable {start first last : Nat} {lines : List (List Char)}

theorem listing_append (start : Nat) (lines others : List (List Char)) (width first last : Nat) :
    listing start (lines ++ others) width first last =
      listing start lines width first last ++
        listing (start + lines.length) others width first last := by
  rw [listing, List.zipIdx_append, List.filter_append, List.map_append]
  rfl

theorem listing_cons (hf : first ≤ start) (hl : start ≤ last) :
    listing start (line :: lines) width first last =
      shown ' ' width start line :: listing (start + 1) lines width first last := by
  rw [listing, List.zipIdx_cons, List.filter_cons_of_pos (by simp [hf, hl]), List.map_cons]
  rfl

theorem listing_of_lt (h : last < start ∨ start + lines.length ≤ first) :
    listing start lines width first last = [] := by
  have hn : ∀ p ∈ lines.zipIdx start, ¬ (first ≤ p.2 && p.2 ≤ last) = true := by
    intro p hp
    have := List.le_snd_of_mem_zipIdx hp
    have := List.snd_lt_add_of_mem_zipIdx hp
    simp only [Bool.and_eq_true, decide_eq_true_eq]
    omega
  rw [listing, List.filter_eq_nil_iff.mpr hn, List.map_nil]

theorem listing_max (start : Nat) (lines : List (List Char)) (width first last : Nat) :
    listing start lines width (max start first) last = listing start lines width first last := by
  have hc : ∀ p ∈ lines.zipIdx start,
      (max start first ≤ p.2 && p.2 ≤ last) = (first ≤ p.2 && p.2 ≤ last) := by
    intro p hp
    have hm : max start first ≤ p.2 ↔ first ≤ p.2 := by
      have := List.le_snd_of_mem_zipIdx hp
      omega
    simp only [hm]
  rw [listing, List.filter_congr hc, ← listing]

theorem forall_mem_listing {P : List Char → Prop}
    (h : ∀ text ∈ lines, ∀ i ≤ last, P (shown ' ' width i text)) :
    ∀ row ∈ listing start lines width first last, P row := by
  intro row hr
  obtain ⟨p, hp, rfl⟩ := List.mem_map.mp hr
  obtain ⟨hm, hb⟩ := List.mem_filter.mp hp
  rw [Bool.and_eq_true, decide_eq_true_eq, decide_eq_true_eq] at hb
  exact h _ (List.fst_mem_of_mem_zipIdx hm) _ hb.2

end Listing

/-! ### The walk from line to line -/

/-- The walk up shows the last of the lines above. A step makes the line it comes to the one that
the others are above, so the induction is on the steps, over all lines of the source. -/
theorem rowsAbove_eq (count : Nat) {last : Nat} (hl : above.length ≤ last)
    (h : Laid source above line below) :
    rowsAbove source width count above.length (Text.extent above) =
      listing 1 above width (above.length + 1 - count) last := by
  induction count generalizing above line below with
  | zero => rw [rowsAbove, listing_of_lt (by omega)]
  | succ count ih =>
    cases above using List.reverseRecOn with
    | nil => rfl
    | append_singleton above text =>
      have ht := Laid.concat_iff.mp h
      have hb : lineBegin source (Text.extent above + text.length) = Text.extent above := by
        rw [← List.append_nil text] at ht
        exact ht.lineBegin_eq
      have hn : ((above ++ [text]).length : Int) - 1 = above.length := by simp
      rw [List.length_append, List.length_singleton] at hl
      rw [rowsAbove, if_neg (by simp [Text.extent_concat])]
      simp only [Text.extent_concat, Nat.add_sub_cancel, hb, ht.extract_line, hn, row_eq,
        ih (Nat.le_of_succ_le hl) ht]
      rw [List.length_append, List.length_singleton, listing_append,
        listing_cons (by omega) (by omega), Nat.add_comm 1 above.length, Nat.add_sub_add_right]
      rfl

theorem getLast?_eq_iff (h : Laid source above line [text]) :
    source.getLast? = some '\n' ↔ text = [] := by
  have hn : '\n' ∉ text := h.unbroken text (by simp)
  rw [h.eq, List.flatMap_singleton, ← List.append_assoc]
  cases text using List.reverseRecOn with
  | nil => simp
  | append_singleton text c =>
    rw [← List.cons_append, ← List.append_assoc, List.getLast?_concat]
    constructor
    · rintro ⟨⟩
      exact absurd (by simp) hn
    · intro he
      exact absurd he (by simp)

/-- The source has no character behind a line and the line feed after it just where no line is
counted there. -/
theorem length_le_iff (h : Laid source above line below) :
    source.length ≤ Text.extent above + line.length + 1 ↔ lineCount source ≤ above.length + 1 := by
  have hs : source.length =
      Text.extent above + line.length + (below.flatMap ('\n' :: ·)).length := by
    rw [h.eq, List.length_append, length_flatMap_concat, List.length_append, Nat.add_assoc]
  have hc : (Text.lines source).length = above.length + 1 + below.length := by
    rw [h.lines_eq, List.length_append, List.length_cons]
    omega
  rw [hs, lineCount, hc]
  cases below with
  | nil =>
    simp only [List.flatMap_nil, List.length_nil]
    split <;> omega
  | cons text below =>
    cases below with
    | nil =>
      have ht := (getLast?_eq_iff h).trans List.length_eq_zero_iff.symm
      simp only [ht, List.flatMap_singleton, List.length_cons, List.length_nil]
      split <;> omega
    | cons next below =>
      simp only [List.flatMap_cons, List.length_append, List.length_cons]
      split <;> omega

/-- The walk down shows the first of the lines below. -/
theorem rowsBelow_eq (count : Nat) {first : Nat} (hf : first ≤ above.length + 2)
    (h : Laid source above line below) :
    rowsBelow source width count (above.length + 2 : Nat) (Text.extent above + line.length) =
      listing (above.length + 2) below width first
        (min (above.length + 1 + count) (lineCount source)) := by
  induction count generalizing above line below with
  | zero => rw [rowsBelow, listing_of_lt (by omega)]
  | succ count ih =>
    rw [rowsBelow]
    split
    · next hs =>
      have := (length_le_iff h).mp hs
      rw [listing_of_lt (by omega)]
    · next hs =>
      rw [length_le_iff h] at hs
      cases below with
      | nil =>
        have hc : lineCount source ≤ above.length + 1 := by
          rw [lineCount, h.lines_eq, List.length_append, List.length_singleton]
          split <;> omega
        exact absurd hc hs
      | cons next below =>
        have hn := Laid.concat_iff.mpr h
        have hl : lineEnd source (Text.extent (above ++ [line])) =
            Text.extent (above ++ [line]) + next.length := by
          rw [← List.nil_append next] at hn
          exact hn.lineEnd_eq
        have ha : (above ++ [line]).length = above.length + 1 := List.length_append
        have hk : ((above.length + 2 : Nat) : Int) + 1 = ((above ++ [line]).length + 2 : Nat) := by
          omega
        have hm : above.length + 1 + (count + 1) = (above ++ [line]).length + 1 + count := by omega
        simp only [← Text.extent_concat, hl, hn.extract_line, row_eq]
        rw [hk, ih (by omega) hn, listing_cons hf (by omega), hm, ha]

/-! ### The excerpt -/

theorem listing_above (context : Nat) (h : Laid source above line below) :
    listing 1 (Text.lines source) width (max 1 (above.length + 1 - context)) above.length =
      rowsAbove source width context above.length (Text.extent above) := by
  rw [h.lines_eq, listing_append, listing_max, rowsAbove_eq context (Nat.le_refl _) h,
    listing_of_lt (Or.inl (by omega) : above.length < 1 + above.length ∨ _), List.append_nil]

theorem listing_below (context : Nat) (h : Laid source above (before ++ behind) below) :
    listing 1 (Text.lines source) width (above.length + 2)
        (min (above.length + 1 + context) (lineCount source)) =
      if Text.extent above + before.length < source.length then
        rowsBelow source width context (above.length + 2 : Nat)
          (Text.extent above + (before ++ behind).length)
      else [] := by
  have hl : Text.lines source = (above ++ [before ++ behind]) ++ below := by
    rw [h.lines_eq, List.append_assoc, List.singleton_append]
  have hn : (above ++ [before ++ behind]).length = above.length + 1 := List.length_append
  rw [hl, listing_append, listing_of_lt (Or.inr (by omega)), List.nil_append, hn,
    Nat.add_comm 1 (above.length + 1)]
  split
  · rw [rowsBelow_eq context (Nat.le_refl _) h]
  · next ho =>
    have hc := (length_le_iff h).mp (by rw [List.length_append]; omega)
    rw [listing_of_lt (by omega)]

def spotAt (above : List (List Char)) (before : List Char) : Spot where
  offset := Text.extent above + before.length
  line := (above.length + 1 : Nat)
  column := (before.length + 1 : Nat)

/-- The line with the caret. -/
def caretRow (width gap : Nat) : List Char :=
  List.replicate (width + 3) ' ' ++ ['|'] ++ List.replicate gap ' ' ++ ['^']

theorem idxOf_bar_caretRow (width gap : Nat) : (caretRow width gap).idxOf '|' = width + 3 := by
  rw [caretRow, List.append_assoc, List.append_assoc, List.idxOf_append_of_notMem (by simp)]
  simp

theorem idxOf_caret_caretRow (width gap : Nat) :
    (caretRow width gap).idxOf '^' = width + 4 + gap := by
  rw [caretRow, List.idxOf_append_of_notMem (by simp), List.idxOf_cons_self]
  simp only [List.length_append, List.length_replicate, List.length_singleton]
  omega

section

variable {context : Nat} (h : Laid source above (before ++ behind) below)
  (hw : (Nat.toDigits 10 (above.length + 1 + context)).length = width)

include h hw

theorem rows_eq : rows source (spotAt above before) context =
    listing 1 (Text.lines source) width (max 1 (above.length + 1 - context)) above.length ++
      [shown '>' width (above.length + 1) (before ++ behind),
        caretRow width ((widened before).length + 1)] ++
      listing 1 (Text.lines source) width (above.length + 2)
        (min (above.length + 1 + context) (lineCount source)) := by
  have hg : (toString ((above.length + 1 : Nat) + context : Int)).length = width := by
    rw [← String.length_toList, ← Int.natCast_add, toList_toString, hw]
  have hx : source.extract (Text.extent above) (Text.extent above + before.length) = before :=
    h.extract_eq
  have hc : (((before.length + 1 : Nat) : Int) +
      (before.count '\t' * (tabWidth - 1) : Nat)).toNat = (widened before).length + 1 := by
    rw [length_widened, tabWidth]
    omega
  have ha : ((above.length + 1 : Nat) : Int) - 1 = above.length := by omega
  have hb : ((above.length + 1 : Nat) : Int) + 1 = (above.length + 2 : Nat) := by omega
  simp only [rows, spotAt, hg, h.lineBegin_eq, h.lineEnd_eq, hx, h.extract_line, hc, ha, hb,
    Int.toNat_natCast, row_eq]
  rw [listing_above context h, listing_below context h]
  rfl

theorem forall_mem_rows {P : List Char → Prop} (hc : ∀ gap, P (caretRow width gap))
    (hs : ∀ mark, mark = ' ' ∨ mark = '>' → ∀ text ∈ Text.lines source,
      ∀ i ≤ above.length + 1 + context, P (shown mark width i text)) :
    ∀ row ∈ rows source (spotAt above before) context, P row := by
  have hm : before ++ behind ∈ Text.lines source := by simp [h.lines_eq]
  rw [rows_eq h hw, List.forall_mem_append, List.forall_mem_append]
  refine ⟨⟨forall_mem_listing ?_, ?_⟩, forall_mem_listing ?_⟩
  · intro text ht i hi
    exact hs ' ' (Or.inl rfl) text ht i (by omega)
  · rw [List.forall_mem_cons, List.forall_mem_singleton]
    exact ⟨hs '>' (Or.inr rfl) _ hm _ (by omega), hc _⟩
  · intro text ht i hi
    exact hs ' ' (Or.inl rfl) text ht i (by omega)

theorem lines_render_spotAt : Text.lines (render source (spotAt above before) context).toList =
    rows source (spotAt above before) context := by
  rw [render, String.toList_ofList]
  refine Text.lines_join (by simp [rows]) (forall_mem_rows h hw ?_ ?_)
  · intro gap
    simp [caretRow]
  · intro mark hm text ht i _
    rw [h.lines_eq] at ht
    exact not_mem_shown (by rcases hm with rfl | rfl <;> decide) (h.unbroken text ht)

end

/-- An excerpt shows the lines around a place, each with its number, and a caret where the rest of
the line of the place begins. -/
theorem lines_render {o context : Nat} {place : Location} (h : o ≤ source.length)
    (hp : Location.start.pass (source.take o) = place)
    (hw : (Nat.toDigits 10 (place.line + context)).length = width) :
    ∃ text gap front, (Text.lines source)[place.line - 1]? = some text ∧
      Text.lines (render source ⟨o, place.line, place.column⟩ context).toList =
        listing 1 (Text.lines source) width (max 1 (place.line - context)) (place.line - 1) ++
          [shown '>' width place.line text, caretRow width gap] ++
          listing 1 (Text.lines source) width (place.line + 1)
            (min (place.line + context) (lineCount source)) ∧
      (∀ row ∈ Text.lines (render source ⟨o, place.line, place.column⟩ context).toList,
        row.idxOf '|' = width + 3) ∧
      shown '>' width place.line text =
        front ++ widened ((source.drop o).takeWhile (· != '\n')) ∧
      (caretRow width gap).idxOf '^' = front.length := by
  obtain ⟨above, before, behind, below, hl, rfl⟩ := exists_laid h
  have hn : place.line = above.length + 1 := hp ▸ hl.line_eq
  have hc : place.column = before.length + 1 := hp ▸ hl.column_eq
  rw [hn] at hw
  rw [hn, hc, hl.takeWhile_drop, ← spotAt, lines_render_spotAt hl hw]
  refine ⟨before ++ behind, (widened before).length + 1,
    shown '>' width (above.length + 1) before, by simp [hl.lines_eq], rows_eq hl hw,
    forall_mem_rows hl hw (idxOf_bar_caretRow width) ?_, shown_append, ?_⟩
  · intro mark hm text _ i hi
    exact idxOf_shown (by rcases hm with rfl | rfl <;> decide) (hw ▸ length_toDigits_le hi)
  · rw [idxOf_caret_caretRow, length_shown (hw ▸ length_toDigits_le (Nat.le_add_right ..))]
    omega

/-- A tab in front of the caret counts as four spaces. -/
theorem lines_render_tab :
    10 ≤ "<a>\n\t<b a a />\n</a>".toList.length ∧ ∃ text gap front,
      (Text.lines "<a>\n\t<b a a />\n</a>".toList)[1]? = some text ∧
      Text.lines (render "<a>\n\t<b a a />\n</a>".toList ⟨10, 2, 7⟩ 3).toList =
        ["  1 | <a>".toList] ++ [shown '>' 1 2 text, caretRow 1 gap] ++ ["  3 | </a>".toList] ∧
      shown '>' 1 2 text = front ++ "a />".toList ∧ (caretRow 1 gap).idxOf '^' = front.length := by
  have hl : 10 ≤ "<a>\n\t<b a a />\n</a>".toList.length := by decide
  have hp : Location.start.pass ("<a>\n\t<b a a />\n</a>".toList.take 10) =
      ⟨10, 2, 7, by decide, by decide⟩ := by decide
  have hw : (Nat.toDigits 10 (2 + 3)).length = 1 := rfl
  obtain ⟨text, gap, front, ht, hr, -, hs, hc⟩ := lines_render hl hp hw
  exact ⟨hl, text, gap, front, ht, hr, hs, hc⟩

end SceneMarkup.Excerpt
