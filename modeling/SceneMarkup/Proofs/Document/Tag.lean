import SceneMarkup.Proofs.Document.Grammar

/-! # Reading tags

Reading a tag is sound and complete for the items of the grammar: a tag takes the spellings of
consistent items up to its end, and nothing else.
-/

namespace SceneMarkup

namespace Tag

open Scanner Token

/-- How the source goes on where the items of a tag end, and what is left of it behind the tag. -/
def Ending.Precedes : Ending → List Char → List Char → Prop
  | selfClosed, cs, rest => cs = '/' :: '>' :: rest
  | opened, cs, rest => cs = rest ∧ ∃ ds, rest = '>' :: ds

variable {tag tag' : Tag} {s s' : Scanner} {place : Location} {name : String} {item : Item}
  {items before : List Item} {ending : Ending} {w cs rest : List Char}

theorem Ending.Precedes.clear (h : ending.Precedes cs rest) : Clear cs := by
  cases ending with
  | selfClosed => exact h ▸ clear_cons (by decide) (by decide)
  | opened =>
    obtain ⟨rfl, ds, rfl⟩ := h
    exact clear_cons (by decide) (by decide)

theorem step_eq_item_iff : tag.step s = .ok (.item tag' s') ↔
    ∃ c, s.current? = some c ∧ c ≠ '/' ∧ c ≠ '>' ∧
      (if c = '{' then tag.readShorthand s else tag.readNamed s) = .ok (tag', s') := by
  have hb {x : Except Stop (Tag × Scanner)} :
      (x >>= fun r => pure (Step.item r.1 r.2)) = .ok (.item tag' s') ↔ x = .ok (tag', s') := by
    cases x <;> simp [bind, Except.bind, pure, Except.pure, Prod.ext_iff]
  unfold step
  split
  · next h => simp [h, Fault.stop]
  · next h =>
    dsimp only
    split <;> simp [h, Fault.stop, pure, Except.pure]
  · next h => simp [h, pure, Except.pure]
  · next h =>
    refine hb.trans ?_
    simp [h]
  · next c h₁ h₂ h₃ h =>
    refine hb.trans ?_
    simp_all

/-! ### Soundness -/

theorem spelled_of_readShorthand (hc : s.current? = some '{')
    (h : tag.readShorthand s = .ok (tag', s')) :
    ∃ item w place, item.Spelled s.rest (w ++ s'.rest) ∧ Blanks w ∧ Solid s'.rest ∧
      tag.give place item = .ok tag' := by
  obtain ⟨⟨name, s₂⟩, hn, h⟩ := bind_eq_ok_iff.mp h
  obtain ⟨w, hw, hp, -⟩ := (s.skip 1).passes_skipBlanks
  obtain ⟨hp', hl⟩ := expect_identifier_eq_ok_iff.mp hn
  obtain ⟨w', hw', hp'', -⟩ := s₂.passes_skipBlanks
  dsimp only at h
  split at h
  · next he =>
    obtain ⟨ht, rfl⟩ := bind_pair_eq_ok_iff.mp h
    obtain ⟨w'', hw'', hq, hs⟩ := (s₂.skipBlanks.skip 1).passes_skipBlanks
    refine ⟨.shorthand (.ofList name), w'', _, ?_, hw'', hs, ht⟩
    rw [(passes_of_current? hc).rest, hp.rest, hp'.rest, hp''.rest, (passes_of_current? he).rest,
      hq.rest]
    exact .shorthand hw hl.1 hw'
  · cases h

theorem spelled_of_readValue {text : List Char} (hn : IsIdentifier text)
    (hr : s.rest = text ++ '=' :: cs) {s₁ : Scanner} (h₁ : s₁.rest = cs)
    (h : tag.readValue (String.ofList text) place s₁ = .ok (tag', s')) :
    ∃ item, item.Spelled s.rest s'.rest ∧ tag.give place item = .ok tag' := by
  subst h₁
  unfold readValue at h
  split at h
  · next hc =>
    split at h
    · next source s₂ hb =>
      obtain ⟨ht, rfl⟩ := bind_pair_eq_ok_iff.mp h
      obtain ⟨hp, hs⟩ := (binding_eq_some_iff hc).mp hb
      refine ⟨.bound (.ofList text) (.ofList source), ?_, ht⟩
      rw [hr, hp.rest, List.append_assoc]
      exact .bound hn hs
    · cases h
  · cases h
  · split at h
    · obtain ⟨⟨value, s₂⟩, hl, h⟩ := bind_eq_ok_iff.mp h
      obtain ⟨ht, rfl⟩ := bind_pair_eq_ok_iff.mp h
      obtain ⟨quote, hq, hp, hs⟩ := literal_eq_ok_iff.mp hl
      refine ⟨.quoted (.ofList text) (.ofList value), ?_, ht⟩
      rw [hr, hp.rest, List.append_assoc]
      exact .quoted hn hq hs
    · cases h
  · cases h

theorem spelled_of_readNamed (h : tag.readNamed s = .ok (tag', s')) :
    ∃ item w place, item.Spelled s.rest (w ++ s'.rest) ∧ Blanks w ∧ Solid s'.rest ∧
      tag.give place item = .ok tag' := by
  obtain ⟨⟨name, s₁⟩, hn, h⟩ := bind_eq_ok_iff.mp h
  obtain ⟨hp, hl⟩ := expect_identifier_eq_ok_iff.mp hn
  dsimp only at h
  split at h
  · next he =>
    obtain ⟨⟨tag'', s₂⟩, hv, h⟩ := bind_eq_ok_iff.mp h
    obtain ⟨rfl, rfl⟩ := Prod.mk.inj (Except.ok.inj h)
    obtain ⟨w, hw, hq, hs⟩ := s₂.passes_skipBlanks
    have hr : s.rest = name ++ '=' :: (s₁.skip 1).rest := by
      rw [hp.rest, (passes_of_current? he).rest]
      rfl
    obtain ⟨item, hi, hg⟩ := spelled_of_readValue hl.1 hr rfl hv
    exact ⟨item, w, _, hq.rest ▸ hi, hw, hs, hg⟩
  · obtain ⟨ht, rfl⟩ := bind_pair_eq_ok_iff.mp h
    obtain ⟨w, hw, hq, hs⟩ := s₁.passes_skipBlanks
    refine ⟨.bare (.ofList name), w, _, ?_, hw, hs, ht⟩
    rw [← hq.rest, hp.rest]
    exact .bare hl

theorem spelled_of_step (h : tag.step s = .ok (.item tag' s')) :
    ∃ item w place, item.Spelled s.rest (w ++ s'.rest) ∧ Blanks w ∧ Solid s'.rest ∧
      tag.give place item = .ok tag' := by
  obtain ⟨c, hc, -, -, h⟩ := step_eq_item_iff.mp h
  split at h
  · next he => exact spelled_of_readShorthand (he ▸ hc) h
  · exact spelled_of_readNamed h

theorem precedes_of_step_selfClosed (h : tag.step s = .ok (.selfClosed s')) :
    Ending.selfClosed.Precedes s.rest s'.rest := by
  unfold step at h
  split at h
  · cases h
  · next hc =>
    dsimp only at h
    split at h
    · next he =>
      cases h
      rw [Ending.Precedes, (passes_of_current? hc).rest, (passes_of_current? he).rest]
      rfl
    · cases h
  · cases h
  · obtain ⟨_, _, h⟩ := bind_eq_ok_iff.mp h
    cases h
  · obtain ⟨_, _, h⟩ := bind_eq_ok_iff.mp h
    cases h

theorem precedes_of_step_opened (h : tag.step s = .ok (.opened s')) :
    Ending.opened.Precedes s.rest s'.rest := by
  unfold step at h
  split at h
  · cases h
  · dsimp only at h
    split at h <;> cases h
  · next hc =>
    cases h
    exact ⟨rfl, current?_eq_some_iff.mp hc⟩
  · obtain ⟨_, _, h⟩ := bind_eq_ok_iff.mp h
    cases h
  · obtain ⟨_, _, h⟩ := bind_eq_ok_iff.mp h
    cases h

/-- What a tag has read up to its end are consistent items, and it holds them. -/
theorem items_of_readItems (hb : tag.Holds before)
    (h : tag.readItems s = .ok (tag', ending, s')) :
    ∃ items cs, Items items s.rest cs ∧ ending.Precedes cs s'.rest ∧
      tag'.Holds (before ++ items) ∧ tag'.name = tag.name := by
  fun_induction readItems tag s generalizing before with
  | case1 => cases h
  | case2 tag s s₁ hs =>
    cases h
    exact ⟨[], s.rest, .nil, precedes_of_step_selfClosed hs, by simpa using hb, rfl⟩
  | case3 tag s s₁ hs =>
    cases h
    exact ⟨[], s.rest, .nil, precedes_of_step_opened hs, by simpa using hb, rfl⟩
  | case4 tag s tag₁ s₁ hs ih =>
    obtain ⟨item, w, place, hi, hw, -, hg⟩ := spelled_of_step hs
    obtain ⟨hc, rfl⟩ := (give_eq_ok_iff hb).mp hg
    obtain ⟨items, cs, his, he, hh, hn⟩ := ih (hb.grown hc) h
    exact ⟨item :: items, cs, .cons hi hw his, he, by simpa using hh, by simpa using hn⟩

/-! ### Completeness

In front of an item a tag reads the item and gives it to itself at the place of the item's name,
whether it takes the item or refuses it.
-/

theorem readShorthand_of_spelled {name w' w'' : List Char} (tag : Tag) (hw : Blanks w)
    (hn : IsIdentifier name) (hw' : Blanks w') (hw'' : Blanks w'') (hr : Solid rest)
    (h : s.rest = '{' :: (w ++ (name ++ (w' ++ '}' :: (w'' ++ rest))))) :
    ∃ s₁ s', s.Passes ('{' :: w) s₁ ∧ s'.rest = rest ∧ tag.readShorthand s =
      tag.give s₁.here (.shorthand (.ofList name)) >>= fun tag' => .ok (tag', s') := by
  obtain ⟨s₁, hp₁, h₁⟩ := exists_passes (show s.rest = '{' :: w ++ _ from h)
  have he : (s.skip 1).skipBlanks = s₁ := by
    refine skipBlanks_eq ((passes_cons_iff (current?_of_rest h)).mp hp₁) hw ?_
    rw [h₁]
    exact hn.solid_append
  obtain ⟨s₂, hp, h₂⟩ := exists_passes h₁
  have hl : Longest IsIdentifier name (w' ++ '}' :: (w'' ++ rest)) :=
    hn.longest_append hw' (by decide) (by decide)
  have h₃ := rest_skipBlanks h₂ hw' (solid_cons (by decide))
  have hx : s₁.expect .identifier "shorthand binding name" = .ok (name, s₂) :=
    expect_identifier_eq_ok_iff.mpr ⟨hp, h₂ ▸ hl⟩
  refine ⟨s₁, _, hp₁, rest_skipBlanks (rest_skip_one h₃) hw'' hr, ?_⟩
  unfold readShorthand
  simp only [he, hx]
  exact if_pos (current?_of_rest h₃)

theorem readValue_of_bound {source : List Char} (tag : Tag) (name : String) (place : Location)
    (hs : IsBinding source) (h : s.rest = '{' :: (source ++ '}' :: rest)) :
    ∃ s', s'.rest = rest ∧ tag.readValue name place s =
      tag.give place (.bound name (.ofList source)) >>= fun tag' => .ok (tag', s') := by
  have hc := current?_of_rest h
  have h' : s.rest = '{' :: source ++ ['}'] ++ rest := by simp [h]
  obtain ⟨s', hp, hr⟩ := exists_passes h'
  refine ⟨s', hr, ?_⟩
  rw [readValue_of_brace hc, expectBinding, (binding_eq_some_iff hc).mpr ⟨hp, hs⟩]
  rfl

theorem readValue_of_quoted {quote : Char} {text : List Char} (tag : Tag) (name : String)
    (place : Location) (hq : isQuote quote) (ht : IsLiteral quote text)
    (h : s.rest = quote :: (text ++ quote :: rest)) :
    ∃ s', s'.rest = rest ∧ tag.readValue name place s =
      tag.give place (.quoted name (.ofList text)) >>= fun tag' => .ok (tag', s') := by
  have h' : s.rest = quote :: text ++ [quote] ++ rest := by simp [h]
  obtain ⟨s', hp, hr⟩ := exists_passes h'
  refine ⟨s', hr, ?_⟩
  rw [readValue_of_isQuote (current?_of_rest h) hq, literal_eq_ok_iff.mpr ⟨quote, hq, hp, ht⟩]
  rfl

theorem readNamed_of_value {name : List Char} (hn : IsIdentifier name) (hw : Blanks w)
    (hr : Solid rest) (h : s.rest = name ++ '=' :: cs)
    (hv : ∀ s₁ : Scanner, s₁.rest = cs → ∃ s₂, s₂.rest = w ++ rest ∧
      tag.readValue (.ofList name) s.here s₁ =
        tag.give s.here item >>= fun tag' => .ok (tag', s₂)) :
    ∃ s', s'.rest = rest ∧
      tag.readNamed s = tag.give s.here item >>= fun tag' => .ok (tag', s') := by
  obtain ⟨s₁, hp, h₁⟩ := exists_passes h
  have hl : Longest IsIdentifier name ('=' :: cs) :=
    hn.longest_append (w := []) (by simp [Blanks]) (by decide) (by decide)
  have hx : s.expect .identifier "attribute name" = .ok (name, s₁) :=
    expect_identifier_eq_ok_iff.mpr ⟨hp, h₁ ▸ hl⟩
  obtain ⟨s₂, h₂, hv⟩ := hv (s₁.skip 1) (rest_skip_one h₁)
  refine ⟨_, rest_skipBlanks h₂ hw hr, ?_⟩
  unfold readNamed
  simp only [hx]
  refine (if_pos (current?_of_rest h₁)).trans ?_
  rw [hv]
  cases tag.give s.here item <;> rfl

theorem readNamed_of_bare {name : List Char} (tag : Tag) (hw : Blanks w)
    (hn : Longest IsIdentifier name (w ++ rest)) (hr : Clear rest)
    (h : s.rest = name ++ (w ++ rest)) :
    ∃ s', s'.rest = rest ∧ tag.readNamed s =
      tag.give s.here (.bare (.ofList name)) >>= fun tag' => .ok (tag', s') := by
  obtain ⟨s₁, hp, h₁⟩ := exists_passes h
  have hx : s.expect .identifier "attribute name" = .ok (name, s₁) :=
    expect_identifier_eq_ok_iff.mpr ⟨hp, h₁ ▸ hn⟩
  have hne : s₁.current? ≠ some '=' := by
    intro hc
    obtain ⟨cs, hc⟩ := current?_eq_some_iff.mp hc
    refine hw.head_append (P := (· ≠ '=')) (fun c hb => ?_) ?_ '=' cs (h₁ ▸ hc) rfl
    · rintro rfl
      exact absurd hb (by decide)
    · rintro c ds rfl rfl
      exact hr.2 ds rfl
  refine ⟨_, rest_skipBlanks h₁ hw hr.1, ?_⟩
  unfold readNamed
  simp only [hx]
  exact if_neg hne

theorem step_eq_readShorthand (tag : Tag) (hc : s.current? = some '{') :
    tag.step s = tag.readShorthand s >>= fun r => .ok (.item r.1 r.2) := by
  unfold step
  simp only [hc]
  rfl

theorem step_eq_readNamed {c : Char} (tag : Tag) (hc : s.current? = some c) (hn : isWordChar c) :
    tag.step s = tag.readNamed s >>= fun r => .ok (.item r.1 r.2) := by
  have hne {d : Char} (hd : ¬ isWordChar d) : some c ≠ some d := by
    rintro ⟨⟩
    exact hd hn
  unfold step
  rw [hc]
  split
  · next h => cases h
  · next h => exact absurd h (hne (by decide))
  · next h => exact absurd h (hne (by decide))
  · next h => exact absurd h (hne (by decide))
  · rfl

theorem step_of_readNamed {name : List Char} (hn : IsIdentifier name) (hs : s.rest = name ++ cs)
    (h : ∃ s', s'.rest = rest ∧
      tag.readNamed s = tag.give s.here item >>= fun tag' => .ok (tag', s')) :
    ∃ s', s'.rest = rest ∧
      tag.step s = tag.give s.here item >>= fun tag' => .ok (.item tag' s') := by
  obtain ⟨c, ds, hd, hc⟩ := hn.head_append cs
  obtain ⟨s', hr, h⟩ := h
  refine ⟨s', hr, ?_⟩
  rw [step_eq_readNamed tag (current?_of_rest (hs.trans hd)) hc, h]
  cases tag.give s.here item <;> rfl

theorem step_of_spelled (tag : Tag) (h : item.Spelled s.rest (w ++ rest)) (hw : Blanks w)
    (hr : Clear rest) : ∃ text s₁ s', s.Passes text s₁ ∧ item.NameAt s.rest s₁.rest ∧
      s'.rest = rest ∧ tag.step s = tag.give s₁.here item >>= fun tag' => .ok (.item tag' s') := by
  have hp : s.Passes [] s := ⟨rfl, rfl⟩
  generalize he : s.rest = cs, hd : w ++ rest = ds at h
  cases h <;> subst hd
  case bare hl =>
    obtain ⟨s', hs, h⟩ := step_of_readNamed hl.1 he (readNamed_of_bare tag hw hl hr he)
    refine ⟨[], s, s', hp, ?_, hs, h⟩
    rw [he]
    exact .bare
  case quoted hn hq ht =>
    obtain ⟨s', hs, h⟩ := step_of_readNamed hn he
      (readNamed_of_value hn hw hr.1 he fun _ h₁ => readValue_of_quoted tag _ _ hq ht h₁)
    refine ⟨[], s, s', hp, ?_, hs, h⟩
    rw [he]
    exact .quoted
  case bound hn hs =>
    obtain ⟨s', hs, h⟩ := step_of_readNamed hn he
      (readNamed_of_value hn hw hr.1 he fun _ h₁ => readValue_of_bound tag _ _ hs h₁)
    refine ⟨[], s, s', hp, ?_, hs, h⟩
    rw [he]
    exact .bound
  case shorthand hw₁ hn hw₂ =>
    obtain ⟨s₁, s', hp, hs, h⟩ := readShorthand_of_spelled tag hw₁ hn hw₂ hw hr.1 he
    have h₁ := List.append_cancel_left (hp.rest.symm.trans he)
    refine ⟨_, s₁, s', hp, ?_, hs, ?_⟩
    · rw [h₁]
      exact .shorthand hw₁
    · rw [step_eq_readShorthand tag (current?_of_rest he), h]
      cases tag.give s₁.here _ <;> rfl

theorem step_of_precedes (tag : Tag) (he : ending.Precedes s.rest rest) :
    ∃ s', s'.rest = rest ∧ tag.step s = .ok (match ending with
      | .selfClosed => .selfClosed s'
      | .opened => .opened s') := by
  cases ending with
  | selfClosed =>
    have h₁ := rest_skip_one he
    refine ⟨_, rest_skip_one h₁, ?_⟩
    rw [step, current?_of_rest he]
    dsimp only
    rw [if_pos (current?_of_rest h₁)]
    rfl
  | opened =>
    obtain ⟨rfl, ds, hd⟩ := he
    refine ⟨s, rfl, ?_⟩
    rw [step, current?_of_rest hd]
    rfl

/-- A tag reads consistent items up to its end, and holds them. -/
theorem readItems_of_items (hb : tag.Holds before) (hi : Items items s.rest cs)
    (he : ending.Precedes cs rest) (hc : Item.Consistent (before ++ items)) :
    ∃ tag' s', tag.readItems s = .ok (tag', ending, s') ∧ s'.rest = rest ∧
      tag'.Holds (before ++ items) ∧ tag'.name = tag.name := by
  generalize hs : s.rest = ds at hi
  induction hi generalizing tag s before with
  | nil =>
    obtain ⟨s', hr, h⟩ := step_of_precedes tag (hs ▸ he)
    refine ⟨tag, s', ?_, hr, by simpa using hb, rfl⟩
    rw [readItems_eq, h]
    cases ending <;> rfl
  | @cons item items _ w ds _ hi hw his ih =>
    have hn : ¬ item.Conflicts before := hc before item items rfl
    obtain ⟨_, s₁, s', -, -, hr, h⟩ := step_of_spelled tag (hs ▸ hi) hw (his.clear he.clear)
    obtain ⟨tag', s'', h', hr', hh, hm⟩ := ih (hb.grown hn) he (by simpa using hc) hr
    refine ⟨tag', s'', ?_, hr', by simpa using hh, by simpa using hm⟩
    rw [readItems_eq, h, give_of_not_conflicts hb hn]
    exact h'

end Tag

end SceneMarkup
