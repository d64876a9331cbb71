import SceneMarkup.Proofs.Document.Behind
import SceneMarkup.Proofs.Document.Extension

/-! # Concatenation

A source behind a complete document is read as it would be read alone, and what it holds comes
after what the document holds.
-/

namespace SceneMarkup

open Scanner

namespace Reading

variable {source : List Char} {r : Reading} (t : List Char)

/-- At the end of a source only blanks are left, and behind them stands the end of the source. -/
theorem passes_of_run (h : (ofSource source).run = .ok r) :
    ∃ w, Blanks w ∧ r.scanner.Passes w ⟨[], .pass .start source⟩ := by
  have hr := (ofSource source).onward_run
  rw [h] at hr
  obtain ⟨n, -, hn⟩ := hr
  obtain ⟨w, hw, hp, -⟩ := r.scanner.passes_skipBlanks
  have hr : r.scanner.rest = w := by
    rw [hp.rest, (step_eq_none_iff.mp (run_extend [] h).2).1, List.append_nil]
  refine ⟨w, hw, by simp [hr], ?_⟩
  rw [← hr, hn]
  simp only [skip, ← Location.pass_append]
  exact congrArg _ (List.take_append_drop n source).symm

/-- At the end of a source, the reading that goes on is the reading of what comes behind it. -/
theorem extend_of_run (h : (ofSource source).run = .ok r) :
    ∃ s : Scanner, s.skipBlanks = (ofSource t).scanner.skipBlanks.behind source ∧
      r.extend t = { behind source r (ofSource t) with scanner := s } := by
  obtain ⟨-, hst⟩ := step_eq_none_iff.mp (run_extend t h).2
  obtain ⟨w, hw, hp⟩ := passes_of_run h
  refine ⟨r.scanner.extend t, ?_, ?_⟩
  · rw [skipBlanks_of_passes (hp.extend t) hw, ← behind_skipBlanks]
    simp [ofSource, Scanner.ofSource, Scanner.extend, Scanner.behind, Location.behind_start]
  · obtain ⟨_, _, _, _, _⟩ := r
    simp_all [extend, behind, ofSource]

end Reading

namespace Document

variable {source more : String} {path : Option String} {d d' : Document} {e : Diagnosis}

theorem parse_append_of_ok (h : parse source path = .ok d) (h' : parse more path = .ok d') :
    parse (source ++ more) path = .ok ⟨d.scripts ++ d'.scripts,
      d.fragments ++ d'.fragments.map (Fragment.behind source.toList)⟩ := by
  obtain ⟨r, hr, rfl⟩ := parse_eq_ok_iff.mp h
  obtain ⟨r', hr', rfl⟩ := parse_eq_ok_iff.mp h'
  obtain ⟨s, hs, he⟩ := Reading.extend_of_run more.toList hr
  obtain ⟨s', hx⟩ := Reading.behind_run_ok source.toList r _ s hs hr'
  rw [← he, ← (Reading.run_extend more.toList hr).1] at hx
  refine parse_eq_ok_iff.mpr ⟨_, by rw [String.toList_append]; exact hx, ?_⟩
  simp [Reading.document, Reading.behind, List.map_reverse]

theorem parse_append_of_error (h : parse source path = .ok d) (h' : parse more path = .error e) :
    ∃ f : Failure, .ofFailure more.toList path f = e ∧
      parse (source ++ more) path =
        .error (.ofFailure (source ++ more).toList path (f.behind source.toList)) := by
  obtain ⟨r, hr, rfl⟩ := parse_eq_ok_iff.mp h
  obtain ⟨f, hr', rfl⟩ := parse_eq_error_iff.mp h'
  obtain ⟨s, hs, he⟩ := Reading.extend_of_run more.toList hr
  have hx := Reading.behind_run_error source.toList r _ s hs hr'
  rw [← he, ← (Reading.run_extend more.toList hr).1] at hx
  refine ⟨f, rfl, parse_eq_error_iff.mpr ⟨_, ?_, rfl⟩⟩
  rw [String.toList_append]
  exact hx

/-- A source behind a complete document. If it is a document too, it comes after the first at moved
places. If it is refused, it is refused for the same reason at a moved place. -/
theorem parse_append (h : parse source path = .ok d) (more : String) :
    match parse more path with
    | .ok d' => parse (source ++ more) path = .ok ⟨d.scripts ++ d'.scripts,
        d.fragments ++ d'.fragments.map (Fragment.behind source.toList)⟩
    | .error e => ∃ e', parse (source ++ more) path = .error e' ∧
        e'.reason = e.reason ∧ e'.message = e.message ∧ e'.label = e.label ∧
        e'.offset = e.offset + source.length ∧
        e'.line = e.line + source.toList.count '\n' ∧
        e'.column = if e.line = 1 then e.column + lastLine source.toList else e.column := by
  cases h' : parse more path with
  | ok d' => exact parse_append_of_ok h h'
  | error e =>
    obtain ⟨f, rfl, hx⟩ := parse_append_of_error h h'
    refine ⟨_, hx, rfl, rfl, rfl, ?_, ?_, ?_⟩
    · change ((source.length + f.place.offset : Nat) : Int) = f.place.offset + source.length
      omega
    · change ((f.place.line + _ : Nat) : Int) = f.place.line + _
      omega
    · change ((if f.place.line = 1 then f.place.column + _ else f.place.column : Nat) : Int) =
        if (f.place.line : Int) = 1 then (f.place.column + _ : Int) else f.place.column
      split <;> split <;> omega

/-- A fragment on the first line of its source moves to where that line begins. -/
theorem parse_append_indented :
    parse "<a/>\n  " none = .ok ⟨[], [.mk "a" [] [] [] 1 1]⟩ ∧
    parse ("<a/>\n  " ++ "<b/>") none =
      .ok ⟨[], [.mk "a" [] [] [] 1 1, .mk "b" [] [] [] 2 3]⟩ := by
  have h : parse "<a/>\n  " none = .ok ⟨[], [.mk "a" [] [] [] 1 1]⟩ := by with_unfolding_all rfl
  have h' : parse "<b/>" none = .ok ⟨[], [.mk "b" [] [] [] 1 1]⟩ := by with_unfolding_all rfl
  have := parse_append h "<b/>"
  rw [h'] at this
  exact ⟨h, this⟩

end Document

end SceneMarkup
