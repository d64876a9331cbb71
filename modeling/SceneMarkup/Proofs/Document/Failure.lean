import SceneMarkup.Document.Reading
import SceneMarkup.Proofs.Source.Location

/-! # Places of failures

Reading only moves onward, so whatever stops it is reported at the place behind some first part of
the source. The three numbers of that place agree with the source.
-/

namespace SceneMarkup

theorem Reading.exists_place_of_run {source : List Char} {f : Failure}
    (h : (ofSource source).run = .error (.failure f)) :
    ∃ n ≤ source.length, f.place = Location.start.pass (source.take n) := by
  have hr := (ofSource source).onward_run
  rw [h] at hr
  obtain ⟨_, ⟨n, -, rfl⟩, hf⟩ := hr
  refine ⟨min n source.length, Nat.min_le_right .., ?_⟩
  rw [hf, ← List.take_eq_take_min]
  rfl

namespace Document

/-- Reading never takes for a quote what is none, and a parse returns a document or a report at a
place whose numbers agree with the source. -/
theorem parse_located (source : String) (path : Option String) :
    (∀ found, (Reading.ofSource source.toList).run ≠ .error (.noQuote found)) ∧
    ((∃ d, parse source path = .ok d) ∨
      ∃ e, parse source path = .error e ∧ e.path = path ∧
        ∃ offset ≤ source.length, e.offset = offset ∧
          e.line = (1 + (source.toList.take offset).count '\n' : Nat) ∧
          e.column = (offset - lineStart (source.toList.take offset) + 1 : Nat)) := by
  refine ⟨Reading.run_ne_noQuote _, ?_⟩
  cases h : parse source path with
  | ok d => exact .inl ⟨d, rfl⟩
  | error e =>
    obtain ⟨f, hr, rfl⟩ := parse_eq_error_iff.mp h
    refine .inr ⟨_, rfl, rfl, ?_⟩
    obtain ⟨n, hn, hp⟩ := Reading.exists_place_of_run hr
    have hl : (source.toList.take n).length = n := List.length_take_of_le hn
    simp only [Diagnosis.ofFailure, Diagnosis.report, hp, Location.offset_start_pass,
      Location.line_start_pass, Location.column_start_pass, hl]
    exact ⟨n, hn, rfl, rfl, rfl⟩

end Document

end SceneMarkup
