import SceneMarkup.Diagnosis.Fault
import SceneMarkup.Source.Scanner

/-! # Captures

A reader takes tokens from a scanner, or stops. It only moves onward: it ends further on in the
source, or it stops for a failure whose place is further on.
-/

namespace SceneMarkup

theorem Token.exists_ofQuote? {c : Char} (h : isQuote c) : ∃ t, ofQuote? c = some t := by
  rcases Bool.or_eq_true .. ▸ h with h | h <;> rw [eq_of_beq h] <;> exact ⟨_, rfl⟩

namespace Scanner

/-- The text of a token, or the failure to find one here. -/
def capture (s : Scanner) (t : Token) (label : String) :
    Except Failure (List Char × Scanner) :=
  match s.take? t with
  | some r => .ok r
  | none => .error ⟨.unmatched t label, s.here⟩

/-- From an opening quote: the text before the closing quote, and the scanner after it. -/
def quoted (s : Scanner) (t : Token) (label : String) : Except Failure (List Char × Scanner) :=
  match (s.skip 1).capture t label with
  | .ok (text, s) => .ok (text.dropLast, s)
  | .error f => .error f

/-- The text of a token; a reader stops where there is none. -/
def expect (s : Scanner) (t : Token) (label : String) : Except Stop (List Char × Scanner) :=
  (s.capture t label).mapError .failure

/-- The text of the literal that the quote here opens. The token is looked up by the quote, and a
character that is no quote has none. -/
def literal (s : Scanner) (label : String) : Except Stop (List Char × Scanner) :=
  match s.current?.bind Token.ofQuote? with
  | some t => (s.quoted t label).mapError .failure
  | none => .error (.noQuote s.current?)

/-- The text of the binding that the brace here opens. A reader stops at the end of a source in
which no brace closes it. -/
def expectBinding (s : Scanner) : Except Stop (List Char × Scanner) :=
  match s.binding with
  | (some text, s) => .ok (text, s)
  | (none, s) => Fault.openBinding.stop s.here

/-- The body of the script whose opening tag ends here. A reader stops at the end of a source in
which the terminator does not follow. -/
def expectScriptBody (s : Scanner) (terminator : String) : Except Stop (List Char × Scanner) :=
  match s.scriptBody terminator.toList with
  | (some body, s) => .ok (body, s)
  | (none, s) => (Fault.openScript terminator).stop s.here

/-- The second scanner stands at least `k` characters ahead of the first, or at the end. -/
def Ahead (s : Scanner) (k : Nat) (s' : Scanner) : Prop := ∃ n, k ≤ n ∧ s' = s.skip n

/-- Reading from `s` ends at least `k` characters ahead, or stops for a failure at a place that is
not before `s`. -/
def Onward {α : Type} (s : Scanner) (k : Nat) (exit : α → Scanner) : Except Stop α → Prop
  | .ok a => s.Ahead k (exit a)
  | .error (.failure f) => ∃ s', s.Ahead 0 s' ∧ f.place = s'.here
  | .error (.noQuote _) => False

section

variable {α β : Type} {s s' s'' : Scanner} {j k : Nat}

@[simp] theorem skip_zero (s : Scanner) : s.skip 0 = s := by
  simp [skip, Location.pass]

theorem ahead_refl (s : Scanner) : s.Ahead 0 s := ⟨0, Nat.le_refl 0, (skip_zero s).symm⟩

theorem ahead_skip (s : Scanner) (n : Nat) : s.Ahead n (s.skip n) := ⟨n, Nat.le_refl n, rfl⟩

theorem ahead_skipBlanks (s : Scanner) : s.Ahead 0 s.skipBlanks := ⟨_, Nat.zero_le _, rfl⟩

theorem ahead_scriptBody (s : Scanner) (terminator : List Char) :
    s.Ahead 0 (s.scriptBody terminator).2 := by
  simp only [scriptBody, atEnd]
  split <;> exact ⟨_, Nat.zero_le _, skip_skip ..⟩

theorem ahead_binding (s : Scanner) : s.Ahead 0 s.binding.2 := by
  simp only [binding, atEnd]
  split <;> exact ⟨_, Nat.zero_le _, skip_skip ..⟩

theorem Ahead.trans (h : s.Ahead j s') (h' : s'.Ahead k s'') : s.Ahead (j + k) s'' := by
  obtain ⟨m, hm, rfl⟩ := h
  obtain ⟨n, hn, rfl⟩ := h'
  exact ⟨m + n, Nat.add_le_add hm hn, skip_skip ..⟩

theorem Ahead.mono (h : s.Ahead k s') (hj : j ≤ k) : s.Ahead j s' := by
  obtain ⟨n, hn, rfl⟩ := h
  exact ⟨n, Nat.le_trans hj hn, rfl⟩

theorem Ahead.length_lt (h : s.Ahead (k + 1) s') (hs : s.rest ≠ []) :
    s'.rest.length < s.rest.length := by
  obtain ⟨n, hn, rfl⟩ := h
  have := List.length_pos_iff.mpr hs
  rw [length_skip]
  omega

theorem onward_stop (fault : Fault) (exit : α → Scanner) (h : s.Ahead 0 s') :
    s.Onward k exit (fault.stop s'.here) := ⟨s', h, rfl⟩

theorem expect_of_none {t : Token} (label : String) (h : t.extent? s.rest = none) :
    s.expect t label = (Fault.unmatched t label).stop s.here := by
  simp only [expect, capture, take?, h, Option.map_none]
  rfl

theorem expect_of_some {t : Token} {n : Nat} (label : String) (h : t.extent? s.rest = some n) :
    s.expect t label = .ok (s.rest.take n, s.skip n) := by
  simp only [expect, capture, take?, h, Option.map_some]
  rfl

theorem literal_of_ofQuote? {t : Token} {c : Char} (label : String) (hs : s.current? = some c)
    (ht : Token.ofQuote? c = some t) : s.literal label =
      (s.skip 1).expect t label >>= fun r => .ok (r.1.dropLast, r.2) := by
  simp only [literal, hs, Option.bind_some, ht, quoted, expect]
  cases (s.skip 1).capture t label <;> rfl

theorem onward_expect {t : Token} (label : String)
    (ht : ∀ n, t.extent? s.rest = some n → k ≤ n) :
    s.Onward k Prod.snd (s.expect t label) := by
  cases h : t.extent? s.rest with
  | none =>
    rw [expect_of_none label h]
    exact onward_stop _ _ s.ahead_refl
  | some n =>
    rw [expect_of_some label h]
    exact ⟨n, ht n h, rfl⟩

theorem Onward.of_ahead {exit : α → Scanner} {x : Except Stop α} (h : s.Ahead j s')
    (hx : s'.Onward k exit x) : s.Onward (j + k) exit x := by
  match x, hx with
  | .ok _, hx => exact h.trans hx
  | .error (.failure _), ⟨s'', h', hf⟩ => exact ⟨s'', (h.trans h').mono (Nat.zero_le _), hf⟩

theorem Onward.error {exit : α → Scanner} {exit' : β → Scanner} {e : Stop}
    (h : s.Onward k exit (.error e)) : s.Onward j exit' (.error e) := by
  match e, h with
  | .failure _, h => exact h

theorem Onward.mono {exit : α → Scanner} {x : Except Stop α} (hx : s.Onward k exit x)
    (hj : j ≤ k) : s.Onward j exit x := by
  match x, hx with
  | .ok _, hx => exact Ahead.mono hx hj
  | .error (.failure _), hx => exact hx

theorem Onward.bind {exit : α → Scanner} {exit' : β → Scanner} {x : Except Stop α}
    {f : α → Except Stop β} (hx : s.Onward j exit x)
    (hf : ∀ a, s.Ahead j (exit a) → s.Onward k exit' (f a)) : s.Onward k exit' (x >>= f) := by
  match x, hx with
  | .ok a, hx => exact hf a hx
  | .error (.failure _), hx => exact hx

theorem onward_literal {c : Char} (hs : s.current? = some c) (hc : isQuote c) (label : String) :
    s.Onward 0 Prod.snd (s.literal label) := by
  obtain ⟨t, ht⟩ := Token.exists_ofQuote? hc
  rw [literal_of_ofQuote? label hs ht]
  refine ((onward_expect label fun n _ => n.zero_le).of_ahead (s.ahead_skip 1)).bind fun _ h => ?_
  exact h.mono (Nat.zero_le _)

end

end Scanner

end SceneMarkup
