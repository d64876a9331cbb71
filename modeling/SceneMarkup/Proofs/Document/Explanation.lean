import SceneMarkup.Proofs.Document.LeftOpen
import SceneMarkup.Proofs.Source.Refusal

/-! # What faults say

A fault says something about the source at the place of its report: which tags are open there, what
the tag holds that stands around it, and what does not come next. Whatever stops the readers of a
tag, its fault is true of the source.
-/

namespace SceneMarkup

open Token

/-- A rest of the source comes behind the name and the items of an opening tag. -/
def Inside (source name : List Char) (items : List Item) (rest : List Char) : Prop :=
  ∃ names cs, LeavesOpen source names cs ∧ Head name items cs rest

/-- In front of a rest the source leaves just these tags open. -/
def Leaves (source : List Char) (names : List String) (rest : List Char) : Prop :=
  LeavesOpen source names rest ∧ ∀ names', LeavesOpen source names' rest → names' = names

/-- A text begins with a closing tag, as far as its name. -/
def ClosingTag (name : String) (cs : List Char) : Prop :=
  ∃ rest, cs = '<' :: '/' :: (name.toList ++ rest) ∧ Longest IsTagName name.toList rest

/-- Where a token has to stand, and what it is called there. -/
inductive Wants (source before : List Char) : Token → String → List Char → Prop where
  | comment {names : List String} {rest : List Char} :
      LeavesOpen source names ('<' :: '!' :: rest) →
      Wants source before .comment "comment" ('!' :: rest)
  | closing {names : List String} {rest : List Char} :
      LeavesOpen source names ('<' :: '/' :: rest) →
      Wants source before .tagName "tag name" rest
  | opening {names : List String} {w rest : List Char} :
      LeavesOpen source names ('<' :: (w ++ rest)) → Blanks w → Solid rest →
      Wants source before .tagName "tag name" rest
  | shorthand {name : List Char} {items : List Item} {w rest : List Char} :
      Inside source name items ('{' :: (w ++ rest)) → Blanks w → Solid rest →
      Wants source before .identifier "shorthand binding name" rest
  | attribute {name : List Char} {items : List Item} {rest : List Char} :
      Inside source name items rest → Solid rest →
      Wants source before .identifier "attribute name" rest
  | value {name key : List Char} {items : List Item} {quote : Char} {t : Token}
      {rest : List Char} :
      Inside source name items (key ++ '=' :: quote :: rest) → IsIdentifier key →
      before.getLast? = some quote → ofQuote? quote = some t →
      Wants source before t "attribute value" rest

/-- The name that an item gives. -/
def Item.name : Item → String
  | bare name | quoted name _ | bound name _ | shorthand name => name

/-- An item conflicts with those before it in its tag, and its name stands at the rest. -/
def Repeats (source : List Char) (item : Item) (rest : List Char) : Prop :=
  ∃ name items cs ds key tail, Inside source name items cs ∧ item.Spelled cs ds ∧
    item.Conflicts items ∧ item.name = .ofList key ∧ rest = key ++ tail ∧
    Longest IsIdentifier key tail ∧ (cs = rest ∨ ∃ w, Blanks w ∧ cs = '{' :: (w ++ rest))

/-- What a fault says about the place between two parts of the source. -/
def Fault.TrueOf (source before after : List Char) : Fault → Prop
  | strayText => (∃ names, LeavesOpen source names after) ∧ Solid after ∧
      after ≠ [] ∧ after.head? ≠ some '<'
  | noTagName => after = [] ∧ ∃ names, LeavesOpen source names ['<']
  | noTagEnd => after.head? ≠ some '>' ∧
      ((∃ name items, Inside source name items ('/' :: after)) ∨
        ∃ name names, LeavesOpen source (.ofList name :: names) ('<' :: '/' :: (name ++ after)) ∧
          Longest IsTagName name after)
  | noShorthandEnd => after.head? ≠ some '}' ∧ ∃ name items w key w',
      Inside source name items ('{' :: (w ++ (key ++ (w' ++ after)))) ∧ Blanks w ∧
        Longest IsIdentifier key (w' ++ after) ∧ Blanks w' ∧ Solid after
  | unmatched token label => Wants source before token label after ∧
      ∀ text, text <+: after → ¬ token.Matches text
  | closingUnopened name => Leaves source [] after ∧ ClosingTag name after
  | closingOther name innermost => (∃ outer, Leaves source (innermost :: outer) after) ∧
      name ≠ innermost ∧ ClosingTag name after
  | unclosed name => after = [] ∧ ∃ outer, LeavesOpen source (name :: outer) []
  | unfinished name => after = [] ∧ ∃ items, Inside source name.toList items []
  | unfollowed name => after = [] ∧ name ≠ Reading.scriptTag ∧
      ∃ items, Inside source name.toList items ['>']
  | openScript terminator => after = [] ∧ ∃ items cs,
      Inside source Reading.scriptTag.toList items ('>' :: cs) ∧
      ∀ body rest, cs = body ++ (terminator.toList ++ rest) → ¬ IsScriptBody terminator.toList body
  | openBinding => after = [] ∧ ∃ name items key cs,
      Inside source name items (key ++ '=' :: '{' :: cs) ∧ IsIdentifier key ∧
      ∀ text rest, cs = text ++ '}' :: rest → ¬ IsBinding text
  | templateLiteral => before.getLast? = some '=' ∧ after.head? = some '\x60' ∧
      ∃ name items key, Inside source name items (key ++ '=' :: after) ∧ IsIdentifier key
  | noValue key => before.getLast? = some '=' ∧
      (∀ c, after.head? = some c → c ≠ '\'' ∧ c ≠ '"' ∧ c ≠ '{' ∧ c ≠ '\x60') ∧
      ∃ name items, Inside source name items (key.toList ++ '=' :: after) ∧
        IsIdentifier key.toList
  | attributeTwice key => ∃ item, Tag.twice item = .attributeTwice key ∧ Repeats source item after
  | bindingTwice key => ∃ item, Tag.twice item = .bindingTwice key ∧ Repeats source item after

/-- A reader stops for a fault that is true of the source at the place where it is reported. -/
def Stop.Explained (source : List Char) (e : Stop) : Prop :=
  ∃ fault before s, e = .failure ⟨fault, s.here⟩ ∧
    (Scanner.ofSource source).Passes before s ∧ fault.TrueOf source before s.rest

open Scanner

variable {source before before₀ name key cs ds w rest : List Char} {items : List Item}
  {item : Item} {s s₀ s' : Scanner} {t : Token} {label : String} {tag : Tag} {e : Stop}

theorem Items.concat (h : Items items cs ds) (hi : item.Spelled ds (w ++ rest)) (hw : Blanks w) :
    Items (items ++ [item]) cs rest := by
  induction h with
  | nil => exact .cons hi hw .nil
  | cons hi' hw' _ ih => exact .cons hi' hw' (ih hi)

theorem Inside.concat (h : Inside source name items cs) (hi : item.Spelled cs (w ++ rest))
    (hw : Blanks w) (hc : ¬ item.Conflicts items) :
    Inside source name (items ++ [item]) rest := by
  obtain ⟨names, ds, ho, hh⟩ := h
  obtain ⟨hw₁, hl, hw₂, his, hcs⟩ := hh
  exact ⟨names, _, ho, .mk hw₁ hl hw₂ (his.concat hi hw) (Item.consistent_concat.mpr ⟨hcs, hc⟩)⟩

theorem explained_of_expect (hp : (Scanner.ofSource source).Passes before s)
    (hw : Wants source before t label s.rest) (h : s.expect t label = .error e) :
    e.Explained source := by
  obtain ⟨hx, rfl⟩ := expect_eq_error_iff.mp h
  exact ⟨_, before, s, rfl, hp, hw, fun _ ht => not_matches_of_extent? hx ht⟩

namespace Tag

theorem explained_of_give (hp : (Scanner.ofSource source).Passes before s) (hh : tag.Holds items)
    (hi : Inside source name items cs) (hs : item.Spelled cs rest) (hn : item.name = .ofList key)
    (hr : s.rest = key ++ ds) (hl : Longest IsIdentifier key ds)
    (hc : cs = s.rest ∨ ∃ w, Blanks w ∧ cs = '{' :: (w ++ s.rest))
    (h : tag.give s.here item = .error e) : e.Explained source := by
  by_cases hx : item.Conflicts items
  · rw [give_of_conflicts hh hx] at h
    obtain rfl := Except.error.inj h
    refine ⟨_, before, s, rfl, hp, ?_⟩
    have hr : Repeats source item s.rest :=
      ⟨name, items, cs, rest, key, ds, hi, hs, hx, hn, hr, hl, hc⟩
    cases item <;> exact ⟨_, rfl, hr⟩
  · rw [give_of_not_conflicts hh hx] at h
    cases h

theorem explained_of_readShorthand (hp : (Scanner.ofSource source).Passes before s)
    (hh : tag.Holds items) (hi : Inside source name items s.rest) (hc : s.current? = some '{')
    (h : tag.readShorthand s = .error e) : e.Explained source := by
  obtain ⟨w, hw, hp₁, hs₁⟩ := (s.skip 1).passes_skipBlanks
  have hp' := (hp.trans (passes_of_current? hc)).trans hp₁
  have hr : s.rest = '{' :: (w ++ (s.skip 1).skipBlanks.rest) := by
    rw [(passes_of_current? hc).rest, hp₁.rest]
    rfl
  rcases bind_eq_error_iff.mp h with h | ⟨⟨key, s₂⟩, hk, h⟩
  · exact explained_of_expect hp' (.shorthand (hr ▸ hi) hw hs₁) h
  · obtain ⟨hp₂, hl⟩ := expect_identifier_eq_ok_iff.mp hk
    obtain ⟨w', hw', hp₃, hs₃⟩ := s₂.passes_skipBlanks
    dsimp only at h
    split at h
    · next he =>
      have hg : tag.give (s.skip 1).skipBlanks.here (.shorthand (.ofList key)) = .error e :=
        bind_pair_eq_error_iff.mp h
      have hsp : (Item.shorthand (.ofList key)).Spelled s.rest (s₂.skipBlanks.skip 1).rest := by
        rw [hr, hp₂.rest, hp₃.rest, (passes_of_current? he).rest]
        exact .shorthand hw hl.1 hw'
      exact explained_of_give hp' hh hi hsp rfl hp₂.rest hl (.inr ⟨w, hw, hr⟩) hg
    · next he =>
      obtain rfl := Except.error.inj h
      refine ⟨_, _, _, rfl, (hp'.trans hp₂).trans hp₃, he, name, items, w, key, w', ?_, hw, ?_,
        hw', hs₃⟩
      · rw [← hp₃.rest, ← hp₂.rest, ← hr]
        exact hi
      · rw [← hp₃.rest]
        exact hl

theorem explained_of_quoted {c : Char} (hp₀ : (Scanner.ofSource source).Passes before₀ s₀)
    (hp : (Scanner.ofSource source).Passes before s) (hh : tag.Holds items)
    (hi : Inside source name items s₀.rest) (hr : s₀.rest = key ++ '=' :: s.rest)
    (hl : Longest IsIdentifier key ('=' :: s.rest)) (hc : s.current? = some c) (hq : isQuote c)
    (h : tag.readValue (.ofList key) s₀.here s = .error e) : e.Explained source := by
  obtain ⟨t, ht⟩ := Token.exists_ofQuote? hq
  have hs := passes_of_current? hc
  rw [readValue_of_isQuote hc hq] at h
  rcases bind_eq_error_iff.mp h with h | ⟨⟨text, s₂⟩, hx, h⟩
  · rw [literal_of_ofQuote? _ hc ht] at h
    rcases bind_eq_error_iff.mp h with h | ⟨_, _, h⟩
    · rw [hr, hs.rest] at hi
      exact explained_of_expect (hp.trans hs) (.value hi hl.1 List.getLast?_concat ht) h
    · cases h
  · obtain ⟨quote, hq, hp₂, hx⟩ := literal_eq_ok_iff.mp hx
    have hg : tag.give s₀.here (.quoted (.ofList key) (.ofList text)) = .error e :=
      bind_pair_eq_error_iff.mp h
    have hsp : (Item.quoted (.ofList key) (.ofList text)).Spelled s₀.rest s₂.rest := by
      rw [hr, hp₂.rest, List.append_assoc]
      exact .quoted hl.1 hq hx
    exact explained_of_give hp₀ hh hi hsp rfl hr hl (.inl rfl) hg

theorem explained_of_readValue (hp₀ : (Scanner.ofSource source).Passes before₀ s₀)
    (hp : (Scanner.ofSource source).Passes before s) (hb : before.getLast? = some '=')
    (hh : tag.Holds items) (hi : Inside source name items s₀.rest)
    (hr : s₀.rest = key ++ '=' :: s.rest) (hl : Longest IsIdentifier key ('=' :: s.rest))
    (h : tag.readValue (.ofList key) s₀.here s = .error e) : e.Explained source := by
  by_cases hq : ∃ c, s.current? = some c ∧ isQuote c
  · obtain ⟨c, hc, hq⟩ := hq
    exact explained_of_quoted hp₀ hp hh hi hr hl hc hq h
  have hv := hr ▸ hi
  unfold readValue at h
  split at h
  · next hc =>
    split at h
    · next text s₂ hx =>
      obtain ⟨hp₂, hx⟩ := (binding_eq_some_iff hc).mp hx
      have hg : tag.give s₀.here (.bound (.ofList key) (.ofList text)) = .error e :=
        bind_pair_eq_error_iff.mp h
      have hsp : (Item.bound (.ofList key) (.ofList text)).Spelled s₀.rest s₂.rest := by
        rw [hr, hp₂.rest, List.append_assoc]
        exact .bound hl.1 hx
      exact explained_of_give hp₀ hh hi hsp rfl hr hl (.inl rfl) hg
    · next s₂ hx =>
      obtain rfl := Except.error.inj h
      obtain ⟨hp₂, hs₂, hx⟩ := binding_eq_none hc hx
      obtain ⟨cs, hcs⟩ := current?_eq_some_iff.mp hc
      refine ⟨_, _, _, rfl, hp.trans hp₂, hs₂, name, items, key, cs, hcs ▸ hv, hl.1, ?_⟩
      rintro text rest rfl
      exact hx text rest hcs
  · next hc =>
    obtain rfl := Except.error.inj h
    exact ⟨_, _, _, rfl, hp, hb, hc, name, items, key, hv, hl.1⟩
  · next c hbrace hback hc =>
    split at h
    · next hq' => exact absurd ⟨c, hc, hq'⟩ hq
    · next hq' =>
      obtain rfl := Except.error.inj h
      refine ⟨_, _, _, rfl, hp, hb, ?_, name, items, by rwa [String.toList_ofList], ?_⟩
      · rintro d hd
        obtain rfl := Option.some.inj (hc.symm.trans hd)
        refine ⟨?_, ?_, hbrace, hback⟩ <;>
        · rintro rfl
          exact hq' rfl
      · rw [String.toList_ofList]
        exact hl.1
  · next hc =>
    obtain rfl := Except.error.inj h
    refine ⟨_, _, _, rfl, hp, hb, ?_, name, items, by rwa [String.toList_ofList], ?_⟩
    · intro d hd
      cases hc.symm.trans hd
    · rw [String.toList_ofList]
      exact hl.1

theorem explained_of_readNamed (hp : (Scanner.ofSource source).Passes before s)
    (hh : tag.Holds items) (hi : Inside source name items s.rest) (hs : Solid s.rest)
    (h : tag.readNamed s = .error e) : e.Explained source := by
  rcases bind_eq_error_iff.mp h with h | ⟨⟨key, s₁⟩, hk, h⟩
  · exact explained_of_expect hp (.attribute hi hs) h
  · obtain ⟨hp₁, hl⟩ := expect_identifier_eq_ok_iff.mp hk
    dsimp only at h
    split at h
    · next he =>
      have hs₁ := passes_of_current? he
      have hr : s.rest = key ++ '=' :: (s₁.skip 1).rest := by
        rw [hp₁.rest, hs₁.rest]
        rfl
      have hb : (before ++ key ++ ['=']).getLast? = some '=' := List.getLast?_concat
      have hv : tag.readValue (.ofList key) s.here (s₁.skip 1) = .error e := by
        rcases bind_eq_error_iff.mp h with h | ⟨_, _, h⟩
        · exact h
        · cases h
      rw [hs₁.rest] at hl
      exact explained_of_readValue hp ((hp.trans hp₁).trans hs₁) hb hh hi hr hl hv
    · have hg : tag.give s.here (.bare (.ofList key)) = .error e := bind_pair_eq_error_iff.mp h
      have hsp : (Item.bare (.ofList key)).Spelled s.rest s₁.rest := by
        rw [hp₁.rest]
        exact .bare hl
      exact explained_of_give hp hh hi hsp rfl hp₁.rest hl (.inl rfl) hg

theorem explained_of_step (hp : (Scanner.ofSource source).Passes before s) (hh : tag.Holds items)
    (hi : Inside source tag.name.toList items s.rest) (hs : Solid s.rest)
    (h : tag.step s = .error e) : e.Explained source := by
  unfold step at h
  split at h
  · next hc =>
    obtain rfl := Except.error.inj h
    have hr : s.rest = [] := List.head?_eq_none_iff.mp hc
    exact ⟨_, _, _, rfl, hp, hr, items, hr ▸ hi⟩
  · next hc =>
    have hs₁ := passes_of_current? hc
    dsimp only at h
    split at h
    · cases h
    · next hg =>
      obtain rfl := Except.error.inj h
      exact ⟨_, _, _, rfl, hp.trans hs₁, hg, .inl ⟨_, items, hs₁.rest ▸ hi⟩⟩
  · cases h
  · next hc =>
    rcases bind_eq_error_iff.mp h with h | ⟨_, _, h⟩
    · exact explained_of_readShorthand hp hh hi hc h
    · cases h
  · rcases bind_eq_error_iff.mp h with h | ⟨_, _, h⟩
    · exact explained_of_readNamed hp hh hi hs h
    · cases h

/-- Whatever stops the reading of a tag's items, its fault is true of the source. -/
theorem explained_of_readItems (hp : (Scanner.ofSource source).Passes before s)
    (hh : tag.Holds items) (hi : Inside source tag.name.toList items s.rest) (hs : Solid s.rest)
    (h : tag.readItems s = .error e) : e.Explained source := by
  fun_induction readItems tag s generalizing before items with
  | case1 tag s f hf =>
    obtain rfl := Except.error.inj h
    exact explained_of_step hp hh hi hs hf
  | case2 => cases h
  | case3 => cases h
  | case4 tag s tag₁ s₁ hst ih =>
    obtain ⟨item, w, place, hsp, hw, hs₁, hg⟩ := spelled_of_step hst
    obtain ⟨hc, rfl⟩ := (give_eq_ok_iff hh).mp hg
    have ho := onward_step tag s
    rw [hst] at ho
    obtain ⟨text, hp₁⟩ := ho.exists_passes
    refine ih (hp.trans hp₁) (hh.grown hc) ?_ hs₁ h
    rw [name_grown]
    exact hi.concat hsp hw hc

end Tag

end SceneMarkup
