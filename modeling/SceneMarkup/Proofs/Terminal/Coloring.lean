import Mathlib.Data.List.Forall2
import SceneMarkup.Proofs.Diagnosis.Excerpt
import SceneMarkup.Proofs.Text.Trimming
import SceneMarkup.Terminal.Report

/-! # Colors

Colors put escape sequences around the pieces of a report and leave its text as it is. In an excerpt
they tell the line of the place, which stays plain, from the caret under it and the lines around,
which are dimmed.
-/

namespace SceneMarkup

namespace Terminal

/-! ### Escape sequences -/

def escape : Char := '\x1b'

def isParameter (c : Char) : Bool := c.isDigit || c == ';'

/-- What is behind a sequence that has been opened, if nothing but numbers comes before its end. -/
def afterSequence? (cs : List Char) : Option (List Char) :=
  match cs.dropWhile isParameter with
  | 'm' :: rest => some rest
  | _ => none

theorem length_afterSequence?_lt {cs rest : List Char} (h : afterSequence? cs = some rest) :
    rest.length < cs.length := by
  unfold afterSequence? at h
  split at h
  · next hd =>
    obtain rfl := Option.some.inj h
    have hl := (cs.dropWhile_suffix isParameter).length_le
    rw [hd, List.length_cons] at hl
    omega
  · cases h

/-- A text without its sequences that set how characters are shown. -/
def unstyled : List Char → List Char
  | [] => []
  | '\x1b' :: '[' :: cs =>
      match h : afterSequence? cs with
      | some rest =>
          have := length_afterSequence?_lt h
          unstyled rest
      | none => '\x1b' :: '[' :: unstyled cs
  | c :: cs => c :: unstyled cs
termination_by cs => cs.length
decreasing_by all_goals simp only [List.length_cons]; omega

variable {cs rest : List Char} {s t s' t' : String}

theorem unstyled_sequence (h : afterSequence? cs = some rest) :
    unstyled ('\x1b' :: '[' :: cs) = unstyled rest := by
  rw [unstyled]
  split
  · next h' =>
    obtain rfl := Option.some.inj (h.symm.trans h')
    rfl
  · next h' => cases h.symm.trans h'

theorem unstyled_cons {c : Char} (h : c ≠ escape) (cs : List Char) :
    unstyled (c :: cs) = c :: unstyled cs :=
  unstyled.eq_3 c cs fun _ he _ => h he

theorem unstyled_append (h : escape ∉ cs) (rest : List Char) :
    unstyled (cs ++ rest) = cs ++ unstyled rest := by
  induction cs with
  | nil => rfl
  | cons c cs ih =>
    obtain ⟨hc, hs⟩ := List.ne_and_not_mem_of_not_mem_cons h
    rw [List.cons_append, unstyled_cons hc.symm, ih hs, List.cons_append]

theorem unstyled_code (code : Code) (rest : List Char) :
    unstyled (code.text.toList ++ rest) = unstyled rest := by
  cases code with
  | errorBadge =>
    calc unstyled (Code.errorBadge.text.toList ++ rest)
        = unstyled ("\x1b[30m\x1b[1m".toList ++ rest) := unstyled_sequence rfl
      _ = unstyled ("\x1b[1m".toList ++ rest) := unstyled_sequence rfl
      _ = unstyled rest := unstyled_sequence rfl
  | _ => exact unstyled_sequence rfl

/-! ### Texts with and without colors -/

/-- Without its sequences the one text is the other, whatever comes behind. -/
def Shows (s t : String) : Prop := ∀ rest, unstyled (s.toList ++ rest) = t.toList ++ unstyled rest

theorem Shows.unstyled_eq (h : Shows s t) : unstyled s.toList = t.toList := by
  have := h []
  rwa [List.append_nil, unstyled, List.append_nil] at this

theorem shows_self (h : escape ∉ s.toList) : Shows s s := unstyled_append h

theorem Shows.append (h : Shows s t) (h' : Shows s' t') : Shows (s ++ s') (t ++ t') := by
  intro rest
  rw [String.toList_append, List.append_assoc, h, h', String.toList_append, List.append_assoc]

theorem shows_codes (codes : List Code) : Shows (String.join (codes.map Code.text)) "" := by
  induction codes with
  | nil => exact shows_self (by simp)
  | cons code codes ih =>
    rw [List.map_cons, String.join_cons]
    exact Shows.append (t := "") (unstyled_code code) ih

theorem shows_paint (codes : List Code) (h : escape ∉ s.toList) :
    Shows (paint true codes s) (paint false codes s) := by
  have hf : paint false codes s = s := rfl
  rw [hf, paint, Bool.not_true, Bool.false_or]
  split
  · exact shows_self h
  · have := ((shows_codes codes).append (shows_self h)).append (shows_codes [.reset])
    simpa [String.join] using this

theorem Shows.intercalate {ss ts : List String} (hs : escape ∉ s.toList)
    (h : List.Forall₂ Shows ss ts) : Shows (s.intercalate ss) (s.intercalate ts) := by
  induction h with
  | nil => exact shows_self (by simp)
  | @cons s₁ t₁ ss ts h₁ hr ih =>
    cases hr with
    | nil => simpa using h₁
    | cons h₂ hr =>
      rw [String.intercalate_cons_cons, String.intercalate_cons_cons]
      exact (h₁.append (shows_self hs)).append ih

/-! ### Reports -/

theorem shows_paintLine {line : List Char} (h : escape ∉ line) :
    Shows (paintLine true line) (paintLine false line) := by
  unfold paintLine
  split
  · exact shows_self (by rwa [String.toList_ofList])
  · split
    · refine (shows_paint _ ?_).append (shows_paint _ (by decide))
      rw [String.toList_ofList]
      exact fun hm => h (List.dropLast_subset _ hm)
    · exact shows_paint _ (by rwa [String.toList_ofList])

theorem shows_paintExcerpt (h : escape ∉ s.toList) :
    Shows (paintExcerpt true s) (paintExcerpt false s) := by
  refine Shows.intercalate (by decide) ?_
  rw [List.forall₂_map_left_iff, List.forall₂_map_right_iff, List.forall₂_same]
  intro line hl
  exact shows_paintLine fun hm => h (Text.exists_mem_splitOnP_iff.mp ⟨line, hl, hm⟩).1

theorem escape_not_mem_shownPath {path : Option String} (h : ∀ p ∈ path, escape ∉ p.toList) :
    escape ∉ (shownPath path).toList := by
  unfold shownPath
  split
  · split
    · decide
    · exact h _ rfl
  · decide

theorem escape_not_mem_toString (i : Int) : escape ∉ (toString i).toList := by
  have hd (n : Nat) : escape ∉ n.repr.toList := by
    rw [Nat.toList_repr]
    exact Excerpt.not_mem_toDigits (by decide)
  rw [Int.toString_eq_repr, Int.repr_eq_if]
  split
  · exact hd _
  · rw [String.toList_append, List.mem_append, not_or]
    exact ⟨by decide, hd _⟩

theorem escape_not_mem_numberText (i : Option Int) : escape ∉ (Build.numberText i).toList := by
  cases i with
  | none => decide
  | some i => exact escape_not_mem_toString i

theorem shows_report {message excerpt : String} {path : Option String}
    {place : Option (String × String)} (hm : escape ∉ message.toList)
    (hp : ∀ p ∈ path, escape ∉ p.toList)
    (hl : ∀ p ∈ place, escape ∉ p.1.toList ∧ escape ∉ p.2.toList)
    (he : escape ∉ excerpt.toList) :
    Shows (report true message path place excerpt) (report false message path place excerpt) := by
  have badge := ((shows_paint [.errorBadge] (s := " ERROR ") (by decide)).append
    (shows_self (s := " ") (by decide))).append (shows_self hm)
  have shown := shows_paint [.cyan] (escape_not_mem_shownPath hp)
  have colon := shows_self (s := ":") (by decide)
  have lineEnd := shows_self (s := "\n") (by decide)
  have tail : List.Forall₂ Shows (if excerpt.isEmpty then [] else [paintExcerpt true excerpt])
      (if excerpt.isEmpty then [] else [paintExcerpt false excerpt]) := by
    split
    · exact .nil
    · exact .cons (shows_paintExcerpt he) .nil
  unfold report
  refine (Shows.intercalate (by decide) ?_).append lineEnd
  refine .cons badge (.cons (shows_self (by decide)) (.cons ?_ tail))
  cases place with
  | none => exact shown
  | some p =>
    obtain ⟨hl, hc⟩ := hl p rfl
    exact (((shown.append colon).append (shows_paint _ hl)).append colon).append (shows_paint _ hc)

/-! ### Excerpts -/

open Excerpt (shown caretRow)

def dimmed (line : List Char) : String := Code.dim.text ++ String.ofList line ++ Code.reset.text

def highlighted : String := Code.red.text ++ Code.bold.text ++ "^" ++ Code.reset.text

theorem isBlank_of_isDigit {c : Char} (h : c.isDigit) : Text.isBlank c = false := by
  have hc : 48 ≤ c.toNat ∧ c.toNat ≤ 57 := by
    simpa [Char.isDigit, UInt32.le_iff_toNat_le] using h
  exact Text.isBlank_eq_false (by omega) (by omega)

theorem isCaretLine_caretRow (width gap : Nat) : isCaretLine (caretRow width gap) := by
  have hb : Text.isBlank '|' = false := by decide
  have hc : ¬ Text.isBlank '^' := by decide
  have hi : Text.trimWhile Text.isBlank (caretRow width gap) =
      '|' :: (List.replicate gap ' ' ++ ['^']) := by
    rw [caretRow, List.append_assoc, List.append_assoc, List.singleton_append,
      Text.trimWhile_append_cons (by simp; decide) hb, Text.dropWhileEnd_eq_rdropWhile,
      List.rdropWhile_concat_neg _ _ _ hc]
  rw [isCaretLine, hi, ← List.cons_append, List.getLast?_concat]
  rfl

theorem isCaretLine_shown (width i : Nat) (text : List Char) :
    isCaretLine (shown ' ' width i text) = false := by
  obtain ⟨d, ds, hd⟩ : ∃ d ds, Nat.toDigits 10 i = d :: ds :=
    List.exists_cons_of_ne_nil (by simp)
  have hm : d ∈ Nat.toDigits 10 i := hd ▸ List.mem_cons_self
  have hdigit : d.isDigit := Nat.isDigit_of_mem_toDigits (by decide) (by decide) hm
  have hs : shown ' ' width i text =
      ([' ', ' '] ++ List.replicate (width - (d :: ds).length) ' ') ++
        d :: (ds ++ [' ', '|', ' '] ++ Excerpt.widened text) := by
    rw [shown, hd, List.leftpad]
    simp
  have hb : Text.isBlank ' ' := by decide
  have hne : d ≠ '|' := by
    rintro rfl
    exact absurd hdigit (by decide)
  rw [isCaretLine, hs, Text.trimWhile_append_cons (by simp [hb]) (isBlank_of_isDigit hdigit)]
  simp [hne]

theorem paintLine_marked (colors : Bool) (width i : Nat) (text : List Char) :
    paintLine colors (shown '>' width i text) = String.ofList (shown '>' width i text) := if_pos rfl

theorem paintLine_shown (width i : Nat) (text : List Char) :
    paintLine true (shown ' ' width i text) = dimmed (shown ' ' width i text) := by
  rw [paintLine, if_neg (by simp [shown]), isCaretLine_shown, if_neg Bool.false_ne_true, paint,
    if_neg (by simp [shown])]
  simp [String.join, dimmed]

theorem paintLine_caretRow (width gap : Nat) : paintLine true (caretRow width gap) =
    dimmed (caretRow width gap).dropLast ++ highlighted := by
  have hh : (caretRow width gap).head? = some ' ' := rfl
  have hd : (String.ofList (caretRow width gap).dropLast).isEmpty = false := by
    simp [caretRow]
  rw [paintLine, hh, if_neg (by decide), if_pos (isCaretLine_caretRow width gap), paint, hd]
  simp [String.join, dimmed, highlighted, paint]

theorem paintLine_false {line : List Char} (h : isCaretLine line → line.getLast? = some '^') :
    paintLine false line = String.ofList line := by
  unfold paintLine
  split
  · rfl
  · split
    · next hc =>
      have hl := List.dropLast_append_getLast? _ (h hc)
      have := congrArg String.ofList hl
      rwa [String.ofList_append] at this
    · rfl

/-- Of the lines of an excerpt, the one of the place stays plain, the caret under it is highlighted,
and all else is dimmed. -/
structure Highlights (source : List Char) (place : Nat) (excerpt : String) : Prop where
  plain : paintExcerpt false excerpt = excerpt
  colored : ∃ above below text width gap,
    Text.lines excerpt.toList =
      above ++ [shown '>' width place text, caretRow width gap] ++ below ∧
    (∀ row ∈ above ++ below, ∃ i, ∃ line ∈ Text.lines source, row = shown ' ' width i line) ∧
    paintExcerpt true excerpt = "\n".intercalate
      (above.map dimmed ++ [String.ofList (shown '>' width place text),
        dimmed (caretRow width gap).dropLast ++ highlighted] ++ below.map dimmed)

theorem intercalate_map_ofList (rows : List (List Char)) :
    "\n".intercalate (rows.map String.ofList) = String.ofList (Text.join ['\n'] rows) := by
  rw [← String.toList_inj, String.toList_intercalate, String.toList_ofList, List.map_map]
  simp [Function.comp_def, Text.join]

theorem highlights_of_lines {source : List Char} {place width gap : Nat} {text : List Char}
    {above below : List (List Char)} {excerpt : String}
    (hs : ∀ row ∈ above ++ below, ∃ i, ∃ line ∈ Text.lines source, row = shown ' ' width i line)
    (hl : Text.lines excerpt.toList =
      above ++ [shown '>' width place text, caretRow width gap] ++ below)
    (he : excerpt = String.ofList (Text.join ['\n'] (Text.lines excerpt.toList))) :
    Highlights source place excerpt := by
  have hd {rows : List (List Char)} (hr : ∀ row ∈ rows, row ∈ above ++ below) :
      rows.map (paintLine true) = rows.map dimmed := by
    refine List.map_congr_left fun row hm => ?_
    obtain ⟨i, line, -, rfl⟩ := hs row (hr row hm)
    exact paintLine_shown width i line
  constructor
  · have hp : (Text.lines excerpt.toList).map (paintLine false) =
        (Text.lines excerpt.toList).map String.ofList := by
      refine List.map_congr_left fun row hm => ?_
      have hm : row ∈ above ++ below ∨ row = shown '>' width place text ∨
          row = caretRow width gap := by
        rw [hl] at hm
        simp only [List.mem_append, List.mem_cons, List.not_mem_nil, or_false] at hm ⊢
        tauto
      rcases hm with hm | rfl | rfl
      · obtain ⟨i, line, -, rfl⟩ := hs row hm
        exact paintLine_false fun hc => absurd hc (by simp [isCaretLine_shown])
      · exact paintLine_marked false width place text
      · exact paintLine_false fun _ => List.getLast?_concat
    rw [paintExcerpt, hp, intercalate_map_ofList, ← he]
  · refine ⟨above, below, text, width, gap, hl, hs, ?_⟩
    rw [paintExcerpt, hl, List.map_append, List.map_append, hd fun row => List.mem_append_left _,
      hd fun row => List.mem_append_right _, List.map_cons, List.map_singleton, paintLine_marked,
      paintLine_caretRow]

theorem highlights_render {source : List Char} {o context : Nat} {place : Location}
    (h : o ≤ source.length) (hp : Location.start.pass (source.take o) = place) :
    Highlights source place.line
      (Excerpt.render source ⟨o, place.line, place.column⟩ context) := by
  obtain ⟨above, before, behind, below, hl, rfl⟩ := Excerpt.exists_laid h
  have hn : place.line = above.length + 1 := hp ▸ hl.line_eq
  have hc : place.column = before.length + 1 := hp ▸ hl.column_eq
  have hr : Text.lines (Excerpt.render source (Excerpt.spotAt above before) context).toList =
      Excerpt.rows source (Excerpt.spotAt above before) context :=
    Excerpt.lines_render_spotAt hl rfl
  rw [hn, hc, ← Excerpt.spotAt]
  refine highlights_of_lines ?_ (hr.trans (Excerpt.rows_eq hl rfl)) (hr ▸ rfl)
  rw [List.forall_mem_append]
  constructor
  · exact Excerpt.forall_mem_listing fun line hm i _ => ⟨i, line, hm, rfl⟩
  · exact Excerpt.forall_mem_listing fun line hm i _ => ⟨i, line, hm, rfl⟩

/-- Colors add nothing but escape sequences to a report, and in the excerpt of a place they mark the
caret alone, whatever the lines of the source look like. -/
theorem colors_keep_text :
    (∀ d : Diagnosis, (∀ s ∈ d.message :: d.excerpt :: d.path.toList, escape ∉ s.toList) →
      unstyled (diagnosisReport true d).toList = (diagnosisReport false d).toList) ∧
    (∀ m : Build.Message, (∀ s ∈ m.text :: m.excerpt :: m.path.toList, escape ∉ s.toList) →
      unstyled (messageReport true m).toList = (messageReport false m).toList) ∧
    ∀ (source : List Char) (o context : Nat) (place : Location), o ≤ source.length →
      Location.start.pass (source.take o) = place →
      Highlights source place.line
        (Excerpt.render source ⟨o, place.line, place.column⟩ context) := by
  refine ⟨?_, ?_, fun source o context place h hp => highlights_render h hp⟩
  · intro d h
    simp only [List.forall_mem_cons] at h
    obtain ⟨hm, he, hp⟩ := h
    apply Shows.unstyled_eq
    refine shows_report hm (fun p hs => hp p (by simpa using hs)) ?_ he
    rintro p ⟨⟩
    exact ⟨escape_not_mem_toString _, escape_not_mem_toString _⟩
  · intro m h
    simp only [List.forall_mem_cons] at h
    obtain ⟨hm, he, hp⟩ := h
    apply Shows.unstyled_eq
    refine shows_report hm (fun p hs => hp p (by simpa using hs)) ?_ he
    intro p hs
    obtain ⟨line, -, rfl⟩ := Option.map_eq_some_iff.mp hs
    exact ⟨escape_not_mem_toString _, escape_not_mem_numberText _⟩

/-- Lines that look like the one of the place, or like one with a caret, do not mislead. -/
theorem colors_keep_text_misleading :
    let d : Diagnosis := ⟨.captureFailed, "m", 2, 3, 8, "| ^ ", some "a", none⟩
    let m : Build.Message := { text := "m", excerpt := ">\n\n|^" }
    let source := "> a ^\n| b ^\n| ^".toList
    (∀ s ∈ d.message :: d.excerpt :: d.path.toList, escape ∉ s.toList) ∧
      unstyled (diagnosisReport true d).toList = (diagnosisReport false d).toList ∧
      (∀ s ∈ m.text :: m.excerpt :: m.path.toList, escape ∉ s.toList) ∧
      unstyled (messageReport true m).toList = (messageReport false m).toList ∧
      8 ≤ source.length ∧ (Location.start.pass (source.take 8)).line = 2 ∧
      Highlights source 2 (Excerpt.render source ⟨8, 2, 3⟩ 1) := by
  intro d m source
  have hd : ∀ s ∈ d.message :: d.excerpt :: d.path.toList, escape ∉ s.toList := by decide
  have hm : ∀ s ∈ m.text :: m.excerpt :: m.path.toList, escape ∉ s.toList := by decide
  have hl : 8 ≤ source.length := by decide
  have hp : Location.start.pass (source.take 8) = ⟨8, 2, 3, by decide, by decide⟩ := by decide
  obtain ⟨diagnosis, message, excerpt⟩ := colors_keep_text
  exact ⟨hd, diagnosis d hd, hm, message m hm, hl, by decide, excerpt source 8 1 _ hl hp⟩

end Terminal

end SceneMarkup
