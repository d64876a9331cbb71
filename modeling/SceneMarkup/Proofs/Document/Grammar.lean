import SceneMarkup.Document.Reading
import SceneMarkup.Proofs.Document.Item
import SceneMarkup.Proofs.Source.Scanner
import SceneMarkup.Proofs.Text.Trimming

/-! # The grammar of sources

Each judgment relates a source to the rest that is left of it behind a construct. A name is the
longest one that stands there; the rest settles all other ends. The grammar does not say where a
fragment stands, so it derives a document with any places.
-/

namespace SceneMarkup

open Token

/-- The source begins with a spelling of the item. Only a bare name could go on in the rest. -/
inductive Item.Spelled : Item → List Char → List Char → Prop where
  | bare {name rest : List Char} : Longest IsIdentifier name rest →
      Spelled (.bare (.ofList name)) (name ++ rest) rest
  | quoted {quote : Char} {name text rest : List Char} : IsIdentifier name → isQuote quote →
      IsLiteral quote text →
      Spelled (.quoted (.ofList name) (.ofList text))
        (name ++ '=' :: quote :: (text ++ quote :: rest)) rest
  | bound {name source rest : List Char} : IsIdentifier name → IsBinding source →
      Spelled (.bound (.ofList name) (.ofList source))
        (name ++ '=' :: '{' :: (source ++ '}' :: rest)) rest
  | shorthand {w name w' rest : List Char} : Blanks w → IsIdentifier name → Blanks w' →
      Spelled (.shorthand (.ofList name)) ('{' :: (w ++ (name ++ (w' ++ '}' :: rest)))) rest

/-- The name of an item, in a source that begins with the item, stands at the rest: in front, or
behind the brace of a shorthand. -/
inductive Item.NameAt : Item → List Char → List Char → Prop where
  | bare {name rest : List Char} : NameAt (.bare (.ofList name)) (name ++ rest) (name ++ rest)
  | quoted {name rest : List Char} {text : String} :
      NameAt (.quoted (.ofList name) text) (name ++ rest) (name ++ rest)
  | bound {name rest : List Char} {source : String} :
      NameAt (.bound (.ofList name) source) (name ++ rest) (name ++ rest)
  | shorthand {w name rest : List Char} : Blanks w →
      NameAt (.shorthand (.ofList name)) ('{' :: (w ++ (name ++ rest))) (name ++ rest)

/-- The source begins with items, blanks between and behind them. -/
inductive Items : List Item → List Char → List Char → Prop where
  | nil {rest : List Char} : Items [] rest rest
  | cons {item : Item} {items : List Item} {cs w ds rest : List Char} :
      item.Spelled cs (w ++ ds) → Blanks w → Items items ds rest → Items (item :: items) cs rest

/-- The source begins with an opening tag; the rest begins with the end of the tag. -/
inductive Head (name : List Char) (items : List Item) : List Char → List Char → Prop where
  | mk {w w' cs rest : List Char} : Blanks w → Longest IsTagName name (w' ++ cs) → Blanks w' →
      Items items cs rest → Item.Consistent items →
      Head name items ('<' :: (w ++ (name ++ (w' ++ cs)))) rest

mutual

/-- The source begins with a node, which holds these scripts, at any depth, and these fragments. -/
inductive Node : List Char → List Char → List Script → List Fragment → Prop where
  | comment {body rest : List Char} : IsCommentBody body →
      Node ('<' :: (commentStart ++ body ++ commentEnd ++ rest)) rest [] []
  | script {items : List Item} {cs body rest : List Char} :
      Head Reading.scriptTag.toList items cs
        ('>' :: (body ++ (Reading.scriptTerminator.toList ++ rest))) →
      IsScriptBody Reading.scriptTerminator.toList body →
      Node cs rest [⟨.ofList body, Item.attributes items⟩] []
  | leaf {name : List Char} {items : List Item} {cs rest : List Char} {line column : Nat} :
      Head name items cs ('/' :: '>' :: rest) →
      Node cs rest []
        [.mk (.ofList name) (Item.attributes items) (Item.bindings items) [] line column]
  | element {name : List Char} {items : List Item} {cs w ds rest : List Char}
      {scripts : List Script} {children : List Fragment} {line column : Nat} :
      Head name items cs ('>' :: (w ++ ds)) → String.ofList name ≠ Reading.scriptTag → Blanks w →
      Content ds ('<' :: '/' :: (name ++ '>' :: rest)) scripts children →
      Node cs rest scripts
        [.mk (.ofList name) (Item.attributes items) (Item.bindings items) children line column]

/-- The source begins with nodes, blanks behind each of them. -/
inductive Content : List Char → List Char → List Script → List Fragment → Prop where
  | nil {rest : List Char} : Content rest rest [] []
  | cons {cs w ds rest : List Char} {scripts scripts' : List Script}
      {fragments fragments' : List Fragment} :
      Node cs (w ++ ds) scripts fragments → Blanks w → Content ds rest scripts' fragments' →
      Content cs rest (scripts ++ scripts') (fragments ++ fragments')

end

/-- The source is blanks and content, and the document is what the content holds. -/
def Derives (source : List Char) (d : Document) : Prop :=
  ∃ w cs, source = w ++ cs ∧ Blanks w ∧ Content cs [] d.scripts d.fragments

/-! ### How constructs begin -/

theorem toNat_of_isWordChar {c : Char} (h : isWordChar c) : 48 ≤ c.toNat ∧ c.toNat ≤ 122 := by
  have hc : c.toNat = c.val.toNat := rfl
  have h₁ : '0'.val.toNat = 48 ∧ '9'.val.toNat = 57 := by decide
  have h₂ : 'A'.val.toNat = 65 ∧ 'Z'.val.toNat = 90 := by decide
  have h₃ : 'a'.val.toNat = 97 ∧ 'z'.val.toNat = 122 := by decide
  change (((decide ('A'.val ≤ c.val ∧ c.val ≤ 'Z'.val) || (decide ('a'.val ≤ c.val) &&
    decide (c.val ≤ 'z'.val))) || (decide ('0'.val ≤ c.val) && decide (c.val ≤ '9'.val))) ||
    c == '_') = true at h
  simp only [Bool.or_eq_true, Bool.and_eq_true, decide_eq_true_eq, beq_iff_eq,
    UInt32.le_iff_toNat_le] at h
  rcases h with h | rfl
  · omega
  · decide

theorem isBlank_of_isWordChar {c : Char} (h : isWordChar c) : Text.isBlank c = false := by
  obtain ⟨hl, hu⟩ := toNat_of_isWordChar h
  exact Text.isBlank_eq_false (by omega) (by omega)

/-- A text that may follow the blanks behind an item. -/
def Clear (cs : List Char) : Prop := Solid cs ∧ ∀ rest, cs ≠ '=' :: rest

theorem clear_cons {c : Char} {cs : List Char} (h : Text.isBlank c = false) (he : c ≠ '=') :
    Clear (c :: cs) :=
  ⟨solid_cons h, fun _ h => he (List.cons.inj h).1⟩

theorem Blanks.head_append {P : Char → Prop} {w cs : List Char} (hw : Blanks w)
    (hb : ∀ c, Text.isBlank c → P c) (hr : ∀ c rest, cs = c :: rest → P c) :
    ∀ c rest, w ++ cs = c :: rest → P c := by
  intro c rest h
  cases w with
  | nil => exact hr c rest h
  | cons d w =>
    obtain ⟨rfl, -⟩ := List.cons.inj h
    exact hb d (hw d (by simp))

theorem not_isWordChar_of_isBlank {c : Char} (h : Text.isBlank c) : ¬ isWordChar c :=
  fun hc => by simp [isBlank_of_isWordChar hc] at h

theorem Token.IsIdentifier.longest_append {name w cs : List Char} {c : Char}
    (h : IsIdentifier name) (hw : Blanks w) (hc : ¬ isWordChar c) (hd : c ≠ '.') :
    Longest IsIdentifier name (w ++ c :: cs) := by
  refine h.longest (hw.head_append (fun d hd => ?_) ?_)
  · refine ⟨not_isWordChar_of_isBlank hd, ?_⟩
    rintro rfl
    exact absurd hd (by decide)
  · exact stops_cons hc hd

theorem Token.IsIdentifier.head_append {cs : List Char} (h : IsIdentifier cs) (ds : List Char) :
    ∃ c rest, cs ++ ds = c :: rest ∧ isWordChar c := by
  obtain ⟨c, rest, rfl⟩ := List.exists_cons_of_ne_nil h.ne_nil
  exact ⟨c, rest ++ ds, rfl, (isIdentifier_cons.mp h).1⟩

theorem Token.IsIdentifier.solid_append {cs ds : List Char} (h : IsIdentifier cs) :
    Solid (cs ++ ds) := by
  obtain ⟨c, rest, he, hc⟩ := h.head_append ds
  exact he ▸ solid_cons (isBlank_of_isWordChar hc)

theorem Token.IsTagName.solid_append {cs ds : List Char} (h : IsTagName cs) :
    Solid (cs ++ ds) := by
  obtain ⟨c, rest, rfl, hc, -⟩ := h
  exact solid_cons (isBlank_of_isWordChar (isWordChar_of_isAlpha hc))

variable {item : Item} {items : List Item} {cs ds rest : List Char}

theorem Item.Spelled.head (h : item.Spelled cs rest) :
    ∃ c ds, cs = c :: ds ∧ (isWordChar c ∨ c = '{') := by
  have named {name : List Char} (hn : IsIdentifier name) (ds : List Char) :
      ∃ c rest, name ++ ds = c :: rest ∧ (isWordChar c ∨ c = '{') := by
    obtain ⟨c, rest, he, hc⟩ := hn.head_append ds
    exact ⟨c, rest, he, .inl hc⟩
  cases h with
  | bare h => exact named h.1 _
  | quoted h => exact named h _
  | bound h => exact named h _
  | shorthand => exact ⟨'{', _, rfl, .inr rfl⟩

theorem Item.Spelled.clear (h : item.Spelled cs rest) : Clear cs := by
  obtain ⟨c, ds, rfl, hc | rfl⟩ := h.head
  · refine clear_cons (isBlank_of_isWordChar hc) ?_
    rintro rfl
    exact absurd hc (by decide)
  · exact clear_cons (by decide) (by decide)

theorem Items.clear (h : Items items cs rest) (hr : Clear rest) : Clear cs := by
  cases h with
  | nil => exact hr
  | cons h => exact h.clear

theorem Head.cons {name : List Char} (h : Head name items cs rest) : ∃ ds, cs = '<' :: ds := by
  cases h
  exact ⟨_, rfl⟩

theorem Head.of_items {name : List Char} (h : Head name [] cs ds) (hi : Items items ds rest)
    (hc : Item.Consistent items) : Head name items cs rest := by
  obtain ⟨hw, hl, hw', hn, -⟩ := h
  cases hn
  exact .mk hw hl hw' hi hc

theorem Head.exists_items {name : List Char} (h : Head name items cs rest) :
    ∃ ds, Head name [] cs ds ∧ Items items ds rest ∧ Item.Consistent items := by
  obtain ⟨hw, hl, hw', hi, hc⟩ := h
  exact ⟨_, .mk hw hl hw' .nil Item.consistent_nil, hi, hc⟩

theorem Head.isTagName {name : List Char} (h : Head name items cs rest) : IsTagName name := by
  cases h with
  | mk _ hl => exact hl.1

theorem Node.head {scripts : List Script} {fragments : List Fragment}
    (h : Node cs rest scripts fragments) : ∃ ds, cs = '<' :: ds := by
  cases h with
  | comment => exact ⟨_, rfl⟩
  | script h | leaf h | element h => cases h; exact ⟨_, rfl⟩

theorem Content.head {scripts : List Script} {fragments : List Fragment}
    (h : Content cs rest scripts fragments) : cs = rest ∨ ∃ ds, cs = '<' :: ds := by
  cases h with
  | nil => exact .inl rfl
  | cons h => exact .inr h.head

end SceneMarkup
