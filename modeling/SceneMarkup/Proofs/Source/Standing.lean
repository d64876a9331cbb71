import SceneMarkup.Proofs.Source.Location
import SceneMarkup.Proofs.Source.Scanner

/-! # Where scanners stand

A scanner that has come from the start of a source stands at an offset of it, with the line and the
column of that offset. What it passes over moves it on by as many characters.
-/

namespace SceneMarkup.Scanner

/-- The scanner stands at an offset of a source, with the line and the column of that offset. -/
structure StandsAt (s : Scanner) (source : List Char) (n : Nat) : Prop where
  le : n ≤ source.length
  rest : s.rest = source.drop n
  offset : s.here.offset = n
  line : s.here.line = 1 + (source.take n).count '\n'
  column : s.here.column = n - lineStart (source.take n) + 1

variable {source text : List Char} {s s' : Scanner} {c : Char} {n : Nat}

theorem standsAt_iff : s.StandsAt source n ↔
    n ≤ source.length ∧ (ofSource source).Passes (source.take n) s := by
  have place (hn : n ≤ source.length) : s.here = Location.start.pass (source.take n) ↔
      s.here.offset = n ∧ s.here.line = 1 + (source.take n).count '\n' ∧
        s.here.column = n - lineStart (source.take n) + 1 := by
    have ho := Location.offset_start_pass (source.take n)
    have hl := Location.line_start_pass (source.take n)
    have hc := Location.column_start_pass (source.take n)
    rw [List.length_take_of_le hn] at ho hc
    rw [← hl, ← hc]
    nth_rewrite 2 [← ho]
    generalize Location.start.pass (source.take n) = l, s.here = here
    cases l
    cases here
    simp
  have rest : s.rest = source.drop n ↔ source = source.take n ++ s.rest := by
    nth_rewrite 2 [← List.take_append_drop n source]
    rw [List.append_cancel_left_eq, eq_comm]
  constructor
  · intro h
    exact ⟨h.le, rest.mp h.rest, (place h.le).mpr ⟨h.offset, h.line, h.column⟩⟩
  · rintro ⟨hn, h⟩
    obtain ⟨ho, hl, hc⟩ := (place hn).mp h.here
    exact ⟨hn, rest.mpr h.rest, ho, hl, hc⟩

theorem standsAt_ofSource (source : List Char) : (ofSource source).StandsAt source 0 :=
  standsAt_iff.mpr ⟨Nat.zero_le _, by constructor <;> rfl⟩

theorem StandsAt.passes (h : s.StandsAt source n) (hp : s.Passes text s') :
    s'.StandsAt source (n + text.length) := by
  obtain ⟨hn, h⟩ := standsAt_iff.mp h
  have hq := h.trans hp
  have hl : (source.take n ++ text).length = n + text.length := by
    rw [List.length_append, List.length_take_of_le hn]
  have ht : source.take (n + text.length) = source.take n ++ text := by
    have hr : source = source.take n ++ text ++ s'.rest := hq.rest
    rw [hr, ← hl, List.take_left, ← hr]
  refine standsAt_iff.mpr ⟨?_, ht ▸ hq⟩
  have hr := congrArg List.length hq.rest
  rw [List.length_append, hl] at hr
  exact hr ▸ Nat.le_add_right ..

theorem StandsAt.skip_min (h : s.StandsAt source n) (k : Nat) :
    (s.skip k).StandsAt source (min source.length (n + k)) := by
  have hn := h.le
  have hl : n + (s.rest.take k).length = min source.length (n + k) := by
    rw [h.rest, List.length_take, List.length_drop]
    omega
  exact hl ▸ h.passes (passes_take s k)

theorem StandsAt.skip {k : Nat} (h : s.StandsAt source n) (hk : n + k ≤ source.length) :
    (s.skip k).StandsAt source (n + k) := by
  have hs := h.skip_min k
  rwa [Nat.min_eq_right hk] at hs

theorem StandsAt.ahead {k : Nat} (h : s.StandsAt source n) (hs : s.Ahead k s') :
    ∃ m, n ≤ m ∧ s'.StandsAt source m := by
  obtain ⟨text, hp⟩ := hs.exists_passes
  exact ⟨_, Nat.le_add_right .., h.passes hp⟩

theorem StandsAt.eq_extract {m : Nat} (h : s.StandsAt source n) (h' : s'.StandsAt source m)
    (hp : s.Passes text s') : text = source.extract n m := by
  have hm : m = n + text.length := h'.offset.symm.trans (h.passes hp).offset
  have hr := hp.rest
  rw [h.rest] at hr
  rw [hm, List.extract, hr, Nat.add_sub_cancel_left, List.take_left]

theorem StandsAt.passes_rest (h : s.StandsAt source n) (hp : s.Passes s.rest s') :
    s'.StandsAt source source.length := by
  have hn := h.le
  have hs := h.passes hp
  rwa [h.rest, List.length_drop, Nat.add_sub_cancel' hn] at hs

theorem StandsAt.rest_skip (h : s.StandsAt source n) (hc : source[n]? = some c) :
    s.rest = c :: source.drop (n + 1) := by
  obtain ⟨hn, rfl⟩ := List.getElem?_eq_some_iff.mp hc
  rw [h.rest, List.drop_eq_getElem_cons hn]

end SceneMarkup.Scanner
