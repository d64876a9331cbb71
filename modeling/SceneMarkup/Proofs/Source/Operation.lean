import SceneMarkup.Proofs.Source.Standing
import SceneMarkup.Source.Operation

/-! # Scanners in use

Whatever is done with a scanner, it stands at an offset of the source with the line and the column
of that offset, and it never goes back.
-/

namespace SceneMarkup.Scanner

variable {s s' left : Scanner} {t : Token} {label : String} {text : List Char}
  {x : Except Stop (List Char × Scanner)}

/-! ### One operation -/

theorem ahead_answered (hl : s.Ahead 0 left)
    (hx : ∀ text s', x = .ok (text, s') → s.Ahead 0 s') : s.Ahead 0 (answered left x).2 := by
  cases x with
  | ok r => exact hx r.1 r.2 rfl
  | error e => exact hl

theorem ahead_of_expectScriptBody {terminator : String}
    (h : s.expectScriptBody terminator = .ok (text, s')) : s.Ahead 0 s' := by
  have hs := s.ahead_scriptBody terminator.toList
  unfold expectScriptBody at h
  split at h
  · next hb =>
    cases h
    rwa [hb] at hs
  · cases h

theorem ahead_of_expectBinding (h : s.expectBinding = .ok (text, s')) : s.Ahead 0 s' := by
  have hs := s.ahead_binding
  unfold expectBinding at h
  split at h
  · next hb =>
    cases h
    rwa [hb] at hs
  · cases h

theorem ahead_of_literal (h : s.literal label = .ok (text, s')) : s.Ahead 0 s' := by
  obtain ⟨quote, -, hp, -⟩ := literal_eq_ok_iff.mp h
  exact ⟨_, Nat.zero_le _, hp.eq_skip⟩

theorem perform_tryCapture (s : Scanner) (t : Token) : s.perform (.tryCapture t) =
    match t.extent? s.rest with
    | some n => (.text (s.rest.take n), s.skip n)
    | none => (.noMatch, s) := by
  simp only [perform, take?]
  cases t.extent? s.rest <;> rfl

theorem perform_capture (s : Scanner) (t : Token) (label : String) :
    s.perform (.capture t label) = match t.extent? s.rest with
    | some n => (.text (s.rest.take n), s.skip n)
    | none => (.stopped (.failure ⟨.unmatched t label, s.here⟩), s) := by
  rw [perform]
  cases h : t.extent? s.rest with
  | some n => rw [expect_of_some label h, answered]
  | none =>
    rw [expect_of_none label h]
    rfl

theorem perform_token {op : Operation} (ho : op = .tryCapture t ∨ op = .capture t label) :
    (∃ text, (s.perform op).1 = .text text ∧ s.Passes text (s.perform op).2) ∨
      (∀ text, (s.perform op).1 ≠ .text text) ∧ (s.perform op).2 = s := by
  rcases ho with rfl | rfl
  · rw [perform_tryCapture]
    split
    · exact .inl ⟨_, rfl, passes_take ..⟩
    · exact .inr ⟨nofun, rfl⟩
  · rw [perform_capture]
    split
    · exact .inl ⟨_, rfl, passes_take ..⟩
    · exact .inr ⟨nofun, rfl⟩

theorem ahead_perform_token {op : Operation} (label : String)
    (ho : op = .tryCapture t ∨ op = .capture t label) : s.Ahead 0 (s.perform op).2 := by
  rcases perform_token ho with ⟨text, -, hp⟩ | ⟨-, he⟩
  · exact ⟨_, Nat.zero_le _, hp.eq_skip⟩
  · rw [he]
    exact s.ahead_refl

/-- No operation moves a scanner back. -/
theorem ahead_perform (s : Scanner) (op : Operation) : s.Ahead 0 (s.perform op).2 := by
  have hs (n : Nat) : s.Ahead 0 (s.skip n) := (s.ahead_skip n).mono n.zero_le
  cases op with
  | advance count => exact hs _
  | hasNext | startsWith => exact s.ahead_refl
  | tryCapture t => exact ahead_perform_token "" (.inl rfl)
  | capture t label => exact ahead_perform_token label (.inr rfl)
  | skipBlanks => exact s.ahead_skipBlanks
  | scriptBody terminator => exact ahead_answered (hs _) fun _ _ => ahead_of_expectScriptBody
  | binding => exact ahead_answered (hs _) fun _ _ => ahead_of_expectBinding
  | literal label => exact ahead_answered (hs _) fun _ _ => ahead_of_literal

/-! ### Operations one after the other -/

theorem ahead_performAll (s : Scanner) (ops : List Operation) : s.Ahead 0 (s.performAll ops) := by
  induction ops generalizing s with
  | nil => exact s.ahead_refl
  | cons op ops ih => exact (s.ahead_perform op).trans (ih (s.perform op).2)

/-- After any operations a scanner stands in its source, and the next operation moves it on to a
place that is not before. Advancing stops at the end of the source. A token that is taken is the
text between the two places, and a token that is not taken leaves the scanner as it is. -/
theorem perform_stands (source : List Char) (ops : List Operation) (op : Operation) :
    ∃ s answer s' m n, (ofSource source).performAll ops = s ∧ s.perform op = (answer, s') ∧
      m ≤ n ∧ s.StandsAt source m ∧ s'.StandsAt source n ∧
      (∀ count, op = .advance count → (n : Int) = min (source.length : Int) (m + max count 0)) ∧
      ∀ t label, op = .tryCapture t ∨ op = .capture t label →
        answer = .text (source.extract m n) ∨ (∀ text, answer ≠ .text text) ∧ s' = s := by
  generalize hs : (ofSource source).performAll ops = s
  obtain ⟨m, -, hm⟩ := (standsAt_ofSource source).ahead (hs ▸ ahead_performAll _ ops)
  obtain ⟨n, hmn, hn⟩ := hm.ahead (s.ahead_perform op)
  refine ⟨s, _, _, m, n, rfl, rfl, hmn, hm, hn, ?_, fun t label ho => ?_⟩
  · rintro count rfl
    have hc : n = min source.length (m + count.toNat) :=
      hn.offset.symm.trans (hm.skip_min count.toNat).offset
    omega
  · rcases perform_token ho with ⟨text, ht, hp⟩ | h
    · exact .inl (hm.eq_extract hn hp ▸ ht)
    · exact .inr h

end SceneMarkup.Scanner
