import SceneMarkup.Proofs.Source.Literal
import SceneMarkup.Proofs.Source.Refusal
import SceneMarkup.Proofs.Source.Standing

/-! # Where raw code ends

A binding ends at the first brace outside literals in front of which braces are balanced, and the
body of a script at the first terminator outside literals that stands behind no backslash. What is
read is the text before that place, and without such a place reading fails at the end of the source.
-/

namespace SceneMarkup

open Quoting

/-- A text that ends outside literals and, outside them, opens as many braces as it closes. -/
def Quoting.Balanced (text : List Char) : Prop :=
  (start.pass text).quoted = false ∧ start.bareCount '{' text = start.bareCount '}' text

/-- A binding whose text begins at `start` can end at the brace at `stop`. -/
structure EndsBinding (source : List Char) (start stop : Nat) : Prop where
  le : start ≤ stop
  brace : source[stop]? = some '}'
  balanced : Balanced (source.extract start stop)

instance (text : List Char) : Decidable (Balanced text) := inferInstanceAs (Decidable (_ ∧ _))

instance (source : List Char) (start stop : Nat) : Decidable (EndsBinding source start stop) :=
  decidable_of_iff (start ≤ stop ∧ source[stop]? = some '}' ∧
      Balanced (source.extract start stop))
    ⟨fun h => ⟨h.1, h.2.1, h.2.2⟩, fun h => ⟨h.le, h.brace, h.balanced⟩⟩

/-- A script whose body begins at `start` can end at the terminator at `stop`: it stands outside
literals, and not behind a backslash. -/
structure EndsScript (source : List Char) (terminator : String) (start stop : Nat) : Prop where
  le : start ≤ stop
  terminator : terminator.toList <+: source.drop stop
  live : (Quoting.start.pass (source.extract start stop)).Live

instance (source : List Char) (terminator : String) (start stop : Nat) :
    Decidable (EndsScript source terminator start stop) :=
  decidable_of_iff (start ≤ stop ∧ terminator.toList <+: source.drop stop ∧
      (Quoting.start.pass (source.extract start stop)).quoted = false ∧
      (Quoting.start.pass (source.extract start stop)).escaped = false)
    ⟨fun h => ⟨h.1, h.2.1, h.2.2⟩, fun h => ⟨h.le, h.terminator, h.live⟩⟩

section

variable {q : Quoting} {depth k m n start : Nat} {c : Char} {cs text source terminator : List Char}
  {s : Scanner}

theorem extract_add (source : List Char) (start n : Nat) :
    source.extract start (start + n) = (source.drop start).take n := by
  simp [List.extract]

theorem isLeast_iff_add {A : Nat → Prop} (h : ∀ stop, A stop → start ≤ stop) :
    IsLeast {stop | A stop} m ↔ ∃ n, m = start + n ∧ IsLeast {n | A (start + n)} n := by
  constructor
  · rintro ⟨hm, hl⟩
    obtain ⟨n, rfl⟩ := Nat.exists_eq_add_of_le (h m hm)
    exact ⟨n, rfl, hm, fun k hk => Nat.le_of_add_le_add_left (hl hk)⟩
  · rintro ⟨n, rfl, hn, hl⟩
    refine ⟨hn, fun stop hs => ?_⟩
    obtain ⟨k, rfl⟩ := Nat.exists_eq_add_of_le (h stop hs)
    exact Nat.add_le_add_left (hl hs) start

/-! ### Bindings -/

/-- No first part of a closing text closes more braces than are open. -/
theorem Quoting.Closing.bareCount_le (h : q.Closing depth cs) (ht : text <+: cs) :
    q.bareCount '}' text ≤ depth + q.bareCount '{' text := by
  induction text generalizing q depth cs with
  | nil => exact Nat.zero_le _
  | cons c text ih =>
    obtain ⟨rest, rfl⟩ := ht
    obtain ⟨h₀, h⟩ := closing_cons.mp h
    obtain ⟨k, ho, hc⟩ := exists_bareCount_cons text h₀
    have := ih h (List.prefix_append text rest)
    omega

theorem endsBinding_add_iff : EndsBinding source start (start + n) ↔
    (source.drop start)[n]? = some '}' ∧ Balanced ((source.drop start).take n) := by
  rw [List.getElem?_drop, ← extract_add]
  exact ⟨fun h => ⟨h.brace, h.balanced⟩, fun h => ⟨Nat.le_add_right .., h.1, h.2⟩⟩

theorem isBinding_iff : IsBinding text ↔
    Balanced text ∧ ∀ before after, text = before ++ '}' :: after → ¬ Balanced before := by
  constructor
  · rintro ⟨hu, hb, hf⟩
    simp only [Nat.zero_add] at hb hf
    exact ⟨⟨hu, hb⟩, fun before after he h => hf before after he h.1 h.2⟩
  · rintro ⟨⟨hu, hb⟩, hf⟩
    refine ⟨hu, by rwa [Nat.zero_add], fun before after he hu hb => ?_⟩
    exact hf before after he ⟨hu, by rwa [Nat.zero_add] at hb⟩

theorem isLeast_endsBinding_iff : IsLeast {stop | EndsBinding source start stop} m ↔
    ∃ text rest, source.drop start = text ++ '}' :: rest ∧ m = start + text.length ∧
      IsBinding text := by
  rw [isLeast_iff_add fun _ h => h.le]
  simp only [endsBinding_add_iff, isLeast_getElem?_iff, ← isBinding_iff]
  constructor
  · rintro ⟨n, rfl, text, rest, he, rfl, hb⟩
    exact ⟨text, rest, he, rfl, hb⟩
  · rintro ⟨text, rest, he, rfl, hb⟩
    exact ⟨_, rfl, text, rest, he, rfl, hb⟩

namespace Scanner

/-- A binding is read up to the first brace that can end it, and no first part of its text closes
more braces than it opens; without such a brace reading fails at the end of the source. -/
theorem expectBinding_ends (hs : s.StandsAt source n) (hc : source[n]? = some '{') :
    (∀ stop, IsLeast {stop | EndsBinding source (n + 1) stop} stop → ∃ s',
      s.expectBinding = .ok (source.extract (n + 1) stop, s') ∧ s'.StandsAt source (stop + 1) ∧
        ∀ text, text <+: source.extract (n + 1) stop →
          Quoting.start.bareCount '}' text ≤ Quoting.start.bareCount '{' text) ∧
    ((∀ stop, ¬ EndsBinding source (n + 1) stop) → ∃ (fault : Fault) (s' : Scanner),
      s.expectBinding = fault.stop s'.here ∧ fault.reason = .unterminatedBinding ∧
        s'.StandsAt source source.length) := by
  have hr := hs.rest_skip hc
  have hc' := current?_of_rest hr
  constructor
  · intro stop hstop
    obtain ⟨text, rest, he, rfl, hb⟩ := isLeast_endsBinding_iff.mp hstop
    have hr' : s.rest = '{' :: text ++ ['}'] ++ rest := by simp [hr, he]
    obtain ⟨s', hp, -⟩ := exists_passes hr'
    rw [extract_add, he, List.take_left]
    refine ⟨s', ?_, ?_, fun before ht => ?_⟩
    · rw [expectBinding, (binding_eq_some_iff hc').mpr ⟨hp, hb⟩]
    · have hl : n + ('{' :: text ++ ['}']).length = n + 1 + text.length + 1 := by
        simp
        omega
      exact hl ▸ hs.passes hp
    · simpa using hb.bareCount_le ht
  · intro hstop
    unfold expectBinding
    split
    · next text s' hx =>
      obtain ⟨hp, hb⟩ := (binding_eq_some_iff hc').mp hx
      have he : source.drop (n + 1) = text ++ '}' :: s'.rest := by
        simpa [hr] using hp.rest
      exact absurd (isLeast_endsBinding_iff.mpr ⟨text, _, he, rfl, hb⟩).1 (hstop _)
    · next s' hx =>
      exact ⟨_, s', rfl, rfl, hs.passes_rest (binding_eq_none hc' hx).1⟩

/-- A brace in a literal does not end a binding. -/
theorem expectBinding_ends_quoted :
    IsLeast {stop | EndsBinding "\x7b'\x7d'\x7d".toList 1 stop} 4 ∧ ∃ s',
      (ofSource "\x7b'\x7d'\x7d".toList).expectBinding = .ok ("'\x7d'".toList, s') ∧
        s'.StandsAt "\x7b'\x7d'\x7d".toList 5 := by
  have hn : IsLeast {stop | EndsBinding "\x7b'\x7d'\x7d".toList 1 stop} 4 :=
    isLeast_of_forall_lt (by decide) (by decide)
  obtain ⟨s', hx, hs, -⟩ := (expectBinding_ends (standsAt_ofSource _) (by decide)).1 4 hn
  exact ⟨hn, s', hx, hs⟩

end Scanner

/-! ### Scripts -/

/-- The scan finds the first live place where the terminator stands. -/
theorem scriptExtent?_iff_isLeast (ht : terminator ≠ []) :
    scriptExtent? terminator q k cs = some m ↔
      ∃ n, m = k + n ∧ IsLeast {n | (q.pass (cs.take n)).Live ∧ terminator <+: cs.drop n} n := by
  induction cs generalizing q k with
  | nil =>
    refine ⟨nofun, ?_⟩
    rintro ⟨n, -, ⟨-, hp⟩, -⟩
    rw [List.drop_nil, List.prefix_nil] at hp
    exact absurd hp ht
  | cons c cs ih =>
    have hif : (!q.quoted && !q.escaped && terminator.isPrefixOf (c :: cs)) = true ↔
        q.Live ∧ terminator <+: c :: cs := by
      simp only [Live, Bool.and_eq_true, Bool.not_eq_true', List.isPrefixOf_iff_prefix, and_assoc]
    rw [scriptExtent?]
    split
    · next h =>
      have h₀ := hif.mp h
      constructor
      · intro he
        exact ⟨0, (Option.some.inj he).symm, h₀, fun n _ => n.zero_le⟩
      · rintro ⟨n, rfl, -, hl⟩
        obtain rfl : n = 0 := Nat.le_zero.mp (hl h₀)
        rfl
    · next h =>
      have hpos : ∀ n, (q.pass ((c :: cs).take n)).Live ∧ terminator <+: (c :: cs).drop n →
          1 ≤ n := by
        rintro (_ | n) hn
        · exact absurd (hif.mpr hn) h
        · exact Nat.le_add_left 1 n
      rw [ih]
      simp only [isLeast_iff_add hpos, Nat.add_comm 1, List.take_succ_cons, List.drop_succ_cons,
        pass_cons]
      constructor
      · rintro ⟨n, rfl, hn⟩
        exact ⟨n + 1, by omega, n, rfl, hn⟩
      · rintro ⟨_, rfl, n, rfl, hn⟩
        exact ⟨n, by omega, hn⟩

theorem endsScript_add_iff {terminator : String} : EndsScript source terminator start (start + n) ↔
    (Quoting.start.pass ((source.drop start).take n)).Live ∧
      terminator.toList <+: (source.drop start).drop n := by
  rw [List.drop_drop, ← extract_add]
  exact ⟨fun h => ⟨h.live, h.terminator⟩, fun h => ⟨Nat.le_add_right .., h.2, h.1⟩⟩

theorem isLeast_endsScript_iff {terminator : String} (ht : terminator ≠ "") :
    IsLeast {stop | EndsScript source terminator start stop} m ↔
      ∃ n, m = start + n ∧
        scriptExtent? terminator.toList .start 0 (source.drop start) = some n := by
  have hne : terminator.toList ≠ [] := by simpa using ht
  rw [isLeast_iff_add fun _ h => h.le]
  simp only [endsScript_add_iff, scriptExtent?_iff_isLeast hne, Nat.zero_add, exists_eq_left']

namespace Scanner

/-- The body of a script is read up to the first terminator that can end it; without one reading
fails at the end of the source. The scan is behind a backslash exactly when the last character is
one, and inside a literal exactly when the text leaves one open. -/
theorem expectScriptBody_ends {terminator : String} (ht : terminator ≠ "")
    (hs : s.StandsAt source n) (hc : source[n]? = some '>') :
    (∀ stop, IsLeast {stop | EndsScript source terminator (n + 1) stop} stop → ∃ s',
      s.expectScriptBody terminator = .ok (source.extract (n + 1) stop, s') ∧
        s'.StandsAt source (stop + terminator.length)) ∧
    ((∀ stop, ¬ EndsScript source terminator (n + 1) stop) → ∃ (fault : Fault) (s' : Scanner),
      s.expectScriptBody terminator = fault.stop s'.here ∧ fault.reason = .unterminatedScript ∧
        s'.StandsAt source source.length) ∧
    ∀ text, ((Quoting.start.pass text).escaped = true ↔ text.getLast? = some '\\') ∧
      ∀ quote, (Quoting.start.pass text).quote = some quote ↔ Within quote text := by
  have hr := hs.rest_skip hc
  have hn := (List.getElem?_eq_some_iff.mp hc).1
  have h₁ : (s.skip 1).StandsAt source (n + 1) := hs.skip hn
  refine ⟨fun stop hstop => ?_, fun hstop => ?_, fun text => ⟨?_, fun quote => quote_pass_iff⟩⟩
  · obtain ⟨m, rfl, hx⟩ := (isLeast_endsScript_iff ht).mp hstop
    have hl := hstop.1.terminator.length_le
    rw [List.length_drop] at hl
    have hpos : 0 < terminator.toList.length := List.length_pos_iff.mpr (by simpa using ht)
    refine ⟨(s.skip 1).skip (m + terminator.toList.length), ?_, ?_⟩
    · rw [expectScriptBody, scriptBody, h₁.rest, hx, extract_add]
    · rw [← String.length_toList, Nat.add_assoc]
      exact h₁.skip (by omega)
  · have hx : scriptExtent? terminator.toList .start 0 (s.skip 1).rest = none := by
      rw [h₁.rest]
      by_contra! hne
      obtain ⟨m, hm⟩ := Option.ne_none_iff_exists'.mp hne
      exact hstop _ ((isLeast_endsScript_iff ht).mpr ⟨m, rfl, hm⟩).1
    refine ⟨.openScript terminator, (s.skip 1).atEnd, ?_, rfl, ?_⟩
    · rw [expectScriptBody, scriptBody, hx]
    · exact h₁.passes_rest (s.skip 1).passes_atEnd.1
  · rw [escaped_pass rfl, Bare, not_not]

/-- A terminator in a literal does not end a script. -/
theorem expectScriptBody_ends_quoted :
    IsLeast {stop | EndsScript ">'</s>'</s>".toList "</s>" 1 stop} 7 ∧ ∃ s',
      (ofSource ">'</s>'</s>".toList).expectScriptBody "</s>" = .ok ("'</s>'".toList, s') ∧
        s'.StandsAt ">'</s>'</s>".toList 11 := by
  have hn : IsLeast {stop | EndsScript ">'</s>'</s>".toList "</s>" 1 stop} 7 :=
    isLeast_of_forall_lt (by decide) (by decide)
  obtain ⟨s', hx, hs⟩ :=
    (expectScriptBody_ends (by decide) (standsAt_ofSource _) (by decide)).1 7 hn
  exact ⟨hn, s', hx, hs⟩

end Scanner

end

end SceneMarkup
