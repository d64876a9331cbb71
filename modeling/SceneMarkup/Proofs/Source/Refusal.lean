import SceneMarkup.Proofs.Source.Scanner

/-! # What scanners refuse

A scanner that fails to take a token stands where no text of the token's pattern begins. One that
fails to find where raw code ends has gone to the end of the source, and the code ends nowhere.
-/

namespace SceneMarkup

theorem bind_eq_error_iff {ε α β : Type} {x : Except ε α} {f : α → Except ε β} {e : ε} :
    x >>= f = .error e ↔ x = .error e ∨ ∃ a, x = .ok a ∧ f a = .error e := by
  cases x <;> simp [bind, Except.bind]

theorem bind_pair_eq_error_iff {ε α β : Type} {x : Except ε α} {b : β} {e : ε} :
    (x >>= fun a => pure (a, b)) = .error e ↔ x = .error e := by
  cases x <;> simp [bind, Except.bind, pure, Except.pure]

namespace Token

/-- The texts that the pattern of a token matches as a whole. -/
def Matches : Token → List Char → Prop
  | blanks, text => Blanks text
  | tagName, text => IsTagName text
  | identifier, text => IsIdentifier text
  | comment, text => ∃ body, text = commentStart ++ body ++ commentEnd
  | doubleQuoted, text => ∃ body, text = body ++ ['"'] ∧ IsLiteral '"' body
  | singleQuoted, text => ∃ body, text = body ++ ['\''] ∧ IsLiteral '\'' body

variable {t : Token} {n : Nat} {quote : Char} {cs text : List Char}

theorem ne_of_commentExtent? (h : commentExtent? n cs = none) (body rest : List Char) :
    cs ≠ body ++ commentEnd ++ rest := by
  fun_induction commentExtent? n cs generalizing body with
  | case1 => cases h
  | case2 n c cs hne ih =>
    intro he
    cases body with
    | nil =>
      obtain ⟨rfl, hcs⟩ := List.cons.inj he
      exact hne rest rfl hcs
    | cons d body => exact ih h body (List.cons.inj he).2
  | case3 =>
    intro he
    simp [commentEnd] at he

theorem not_quoted_of_quotedExtent? (hq : quote ≠ '\\') (h : quotedExtent? quote 0 cs = none)
    (ht : text <+: cs) : ¬ ∃ body, text = body ++ [quote] ∧ IsLiteral quote body := by
  rintro ⟨body, rfl, hb⟩
  obtain ⟨rest, rfl⟩ := ht
  rw [List.append_assoc, List.singleton_append, quotedExtent?_append hb hq] at h
  cases h

theorem not_matches_of_extent? (h : t.extent? cs = none) (ht : text <+: cs) : ¬ t.Matches text := by
  cases t with
  | blanks => cases h
  | tagName => exact not_isTagName_of_extent?_tagName h ht
  | identifier => exact not_isIdentifier_of_extent?_identifier h ht
  | comment =>
    rintro ⟨body, rfl⟩
    obtain ⟨rest, rfl⟩ := ht
    have h' : commentExtent? 3 (body ++ commentEnd ++ rest) = none := h
    exact ne_of_commentExtent? h' body rest rfl
  | doubleQuoted => exact not_quoted_of_quotedExtent? (by decide) h ht
  | singleQuoted => exact not_quoted_of_quotedExtent? (by decide) h ht

end Token

namespace Scanner

variable {s s' : Scanner} {t : Token} {c : Char} {cs text : List Char} {label : String} {e : Stop}

theorem expect_eq_error_iff : s.expect t label = .error e ↔
    t.extent? s.rest = none ∧ e = .failure ⟨.unmatched t label, s.here⟩ := by
  cases h : t.extent? s.rest with
  | none => simp [expect_of_none label h, Fault.stop, eq_comm]
  | some n => simp [expect_of_some label h]

theorem passes_atEnd (s : Scanner) : s.Passes s.rest s.atEnd ∧ s.atEnd.rest = [] := by
  have h : s.rest = s.rest ++ [] := (List.append_nil _).symm
  exact ⟨passes_skip h, skip_rest h⟩

theorem passes_of_scan_eq_none {extent? : Option Nat} {n : Nat}
    (h : (match extent? with
      | some m => (some (s.rest.take m), s.skip (m + n))
      | none => (none, s.atEnd)) = (none, s')) :
    extent? = none ∧ s.Passes s.rest s' ∧ s'.rest = [] := by
  split at h
  · cases h
  · obtain rfl := (Prod.mk.inj h).2
    exact ⟨rfl, s.passes_atEnd⟩

theorem binding_eq_none (hc : s.current? = some c) (h : s.binding = (none, s')) :
    s.Passes s.rest s' ∧ s'.rest = [] ∧
      ∀ text rest, s.rest = c :: (text ++ '}' :: rest) → ¬ IsBinding text := by
  obtain ⟨hx, hp, hr⟩ := passes_of_scan_eq_none (n := 1) h
  have hc := passes_of_current? hc
  refine ⟨?_, hr, fun text rest he hb => ?_⟩
  · rw [hc.rest]
    exact hc.trans hp
  · cases hx.symm.trans
      (bindingExtent?_eq_some_iff.mpr ⟨text, rest, rest_skip_one he, rfl, hb⟩)

theorem scriptBody_eq_none {a : Char} (ha : a ∉ cs) (hc : s.current? = some c)
    (h : s.scriptBody (a :: cs) = (none, s')) :
    s.Passes s.rest s' ∧ s'.rest = [] ∧
      ∀ body rest, s.rest = c :: (body ++ (a :: cs ++ rest)) → ¬ IsScriptBody (a :: cs) body := by
  obtain ⟨hx, hp, hr⟩ := passes_of_scan_eq_none (n := (a :: cs).length) h
  have hc := passes_of_current? hc
  refine ⟨?_, hr, fun body rest he hb => ?_⟩
  · rw [hc.rest]
    exact hc.trans hp
  · cases hx.symm.trans
      ((scriptExtent?_eq_some_iff ha).mpr ⟨body, rest, rest_skip_one he, rfl, hb⟩)

end Scanner

end SceneMarkup
