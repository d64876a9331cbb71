import SceneMarkup.Proofs.Document.Grammar

/-! # Well-formed documents

A document is well formed when each of its texts can be written where it stands. Whatever the
grammar derives is well formed, since an item carries only texts that were spelled.
-/

namespace SceneMarkup

open Token

structure Entries.AreAttributes (m : Entries AttributeValue) : Prop where
  nodup : (keys m).Nodup
  keys : ∀ e ∈ m, IsIdentifier e.1.toList
  texts : ∀ key text, (key, .text text) ∈ m → ∃ quote, isQuote quote ∧ IsLiteral quote text.toList

structure Entries.AreBindings (m : Entries String) : Prop where
  nodup : (keys m).Nodup
  keys : ∀ e ∈ m, IsIdentifier e.1.toList
  sources : ∀ e ∈ m, IsBinding e.2.toList

structure Script.WellFormed (script : Script) : Prop where
  attributes : script.attributes.AreAttributes
  source : IsScriptBody Reading.scriptTerminator.toList script.source.toList

/-- A fragment that can be written, with all fragments in it. -/
inductive Fragment.WellFormed : Fragment → Prop where
  | mk {name : String} {attributes : Entries AttributeValue} {bindings : Entries String}
      {children : List Fragment} {line column : Nat} :
      IsTagName name.toList → (name = Reading.scriptTag → children = []) →
      attributes.AreAttributes → bindings.AreBindings →
      (∀ child ∈ children, child.WellFormed) →
      WellFormed (.mk name attributes bindings children line column)

theorem Fragment.wellFormed_plain {children : List Fragment}
    (h : ∀ child ∈ children, child.WellFormed) (line column : Nat) : WellFormed (.mk "a" [] [] children line column) := by
  have hn : IsTagName "a".toList := by
    have he : "a".toList = ['a'] := by decide
    rw [he]
    exact isTagName_cons.mpr ⟨by decide, by simp⟩
  have hs : "a" ≠ Reading.scriptTag := by decide
  exact .mk hn (fun h => absurd h hs) ⟨List.nodup_nil, by simp, by simp⟩
    ⟨List.nodup_nil, by simp, by simp⟩ h

structure Document.WellFormed (d : Document) : Prop where
  scripts : ∀ script ∈ d.scripts, script.WellFormed
  fragments : ∀ fragment ∈ d.fragments, fragment.WellFormed

/-! ### Items -/

namespace Item

def Spellable : Item → Prop
  | bare name | shorthand name => IsIdentifier name.toList
  | quoted name text =>
      IsIdentifier name.toList ∧ ∃ quote, isQuote quote ∧ IsLiteral quote text.toList
  | bound name source => IsIdentifier name.toList ∧ IsBinding source.toList

variable {item : Item} {items : List Item} {cs rest : List Char}

theorem Spelled.spellable (h : item.Spelled cs rest) : item.Spellable := by
  cases h with
  | bare h => simpa [Spellable] using h.1
  | quoted hn hq ht => simpa [Spellable] using ⟨hn, _, hq, ht⟩
  | bound hn hs => simpa [Spellable] using ⟨hn, hs⟩
  | shorthand _ hn => simpa [Spellable] using hn

theorem nodup_keys_attributes (h : Consistent items) :
    (Entries.keys (attributes items)).Nodup := by
  induction items using List.reverseRecOn with
  | nil => exact List.nodup_nil
  | append_singleton items item ih =>
    obtain ⟨hi, hc⟩ := consistent_concat.mp h
    rw [attributes, List.filterMap_append, Entries.keys_append]
    cases item with
    | bare | quoted =>
      exact (ih hi).append (List.nodup_singleton _) (List.disjoint_singleton.mpr hc)
    | bound | shorthand => exact (List.append_nil _).symm ▸ ih hi

theorem areAttributes (h : Consistent items) (hs : ∀ item ∈ items, item.Spellable) :
    (attributes items).AreAttributes where
  nodup := nodup_keys_attributes h
  keys := by
    intro e he
    obtain ⟨item, hm, hi⟩ := List.mem_filterMap.mp he
    have := hs item hm
    cases item with
    | bare => cases hi; exact this
    | quoted => cases hi; exact this.1
    | bound | shorthand => cases hi
  texts := by
    intro key text he
    obtain ⟨item, hm, hi⟩ := List.mem_filterMap.mp he
    have := hs item hm
    cases item with
    | quoted => cases hi; exact this.2
    | bare | bound | shorthand => cases hi

end Item

theorem Token.IsIdentifier.isBinding {cs : List Char} (h : IsIdentifier cs) : IsBinding cs := by
  refine Quoting.closing_of_plain rfl fun c hc => ?_
  have hne {d : Char} (hd : ¬ (isWordChar d ∨ d = '.')) : c ≠ d := by
    rintro rfl
    exact hd (h.mem hc)
  have h₁ := hne (d := '\'') (by decide)
  have h₂ := hne (d := '"') (by decide)
  exact ⟨by simp [isQuote, h₁, h₂], hne (by decide), hne (by decide)⟩

theorem Item.areBindings {items : List Item} (hs : ∀ item ∈ items, item.Spellable) :
    (Item.bindings items).AreBindings where
  nodup := Entries.nodup_keys_ofList _
  keys := by
    intro e he
    obtain ⟨item, hm, hi⟩ := List.mem_filterMap.mp (Entries.mem_of_mem_ofList he)
    have := hs item hm
    cases item with
    | bound => cases hi; exact this.1
    | shorthand => cases hi; exact this
    | bare | quoted => cases hi
  sources := by
    intro e he
    obtain ⟨item, hm, hi⟩ := List.mem_filterMap.mp (Entries.mem_of_mem_ofList he)
    have := hs item hm
    cases item with
    | bound => cases hi; exact this.2
    | shorthand => cases hi; exact Token.IsIdentifier.isBinding this
    | bare | quoted => cases hi

theorem Items.spellable {items : List Item} {cs rest : List Char} (h : Items items cs rest) :
    ∀ item ∈ items, item.Spellable := by
  induction h with
  | nil => simp
  | cons hi _ _ ih => simpa using ⟨hi.spellable, ih⟩

/-! ### Derivations -/

section

variable {name : List Char} {items : List Item} {cs rest : List Char}

theorem Head.areAttributes (h : Head name items cs rest) :
    (Item.attributes items).AreAttributes := by
  cases h with
  | mk _ _ _ hi hc => exact Item.areAttributes hc hi.spellable

theorem Head.areBindings (h : Head name items cs rest) : (Item.bindings items).AreBindings := by
  cases h with
  | mk _ _ _ hi => exact Item.areBindings hi.spellable

mutual

theorem Node.wellFormed {cs rest : List Char} {scripts : List Script} {fragments : List Fragment} :
    Node cs rest scripts fragments → Document.WellFormed ⟨scripts, fragments⟩
  | .comment _ => ⟨by simp, by simp⟩
  | .script hh hb => ⟨by simpa using ⟨hh.areAttributes, by simpa using hb⟩, by simp⟩
  | .leaf hh => ⟨by simp, by
    simpa using .mk (by simpa using hh.isTagName) (fun _ => rfl) hh.areAttributes hh.areBindings
      (by simp)⟩
  | .element hh hn _ hc => ⟨hc.wellFormed.scripts, by
    simpa using .mk (by simpa using hh.isTagName) (fun h => absurd h hn) hh.areAttributes
      hh.areBindings hc.wellFormed.fragments⟩

theorem Content.wellFormed {cs rest : List Char} {scripts : List Script}
    {fragments : List Fragment} :
    Content cs rest scripts fragments → Document.WellFormed ⟨scripts, fragments⟩
  | .nil => ⟨by simp, by simp⟩
  | .cons hn _ hc => by
    have h := hn.wellFormed
    have h' := hc.wellFormed
    constructor
    · exact fun s hs => (List.mem_append.mp hs).elim (h.scripts s) (h'.scripts s)
    · exact fun f hf => (List.mem_append.mp hf).elim (h.fragments f) (h'.fragments f)

end

end

theorem Derives.wellFormed {source : List Char} {d : Document} (h : Derives source d) :
    d.WellFormed := by
  obtain ⟨_, _, -, -, hc⟩ := h
  exact hc.wellFormed

end SceneMarkup
