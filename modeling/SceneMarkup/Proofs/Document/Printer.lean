import SceneMarkup.Proofs.Document.Acceptance
import SceneMarkup.Proofs.Document.WellFormed

/-! # Printing documents

A document is printed with its scripts first and no blanks but one in front of each item. What is
printed of a well-formed document is derived by the grammar, so parsing undoes printing.
-/

namespace SceneMarkup

open Token

def Token.isLiteral (quote : Char) : List Char → Bool
  | '\\' :: _ :: cs => isLiteral quote cs
  | c :: cs => c != quote && c != '\\' && isLiteral quote cs
  | [] => true

theorem Token.isLiteral_iff {quote : Char} {cs : List Char} :
    isLiteral quote cs ↔ IsLiteral quote cs := by
  constructor
  · intro h
    fun_induction isLiteral quote cs with
    | case1 _ cs ih => exact .escaped (ih h)
    | case2 c cs _ ih =>
      simp only [Bool.and_eq_true, bne_iff_ne, ne_eq] at h
      exact .plain h.1.1 h.1.2 (ih h.2)
    | case3 => exact .nil
  · intro h
    induction h with
    | nil => rfl
    | plain hq hb _ ih =>
      rw [isLiteral.eq_2 _ _ _ (by simp_all)]
      simp [hq, hb, ih]
    | escaped _ ih => exact ih

namespace Item

/-- The quote for a text: a double one, unless the text only fits between single ones. -/
def quoteFor (text : List Char) : Char := if isLiteral '"' text then '"' else '\''

def printed : Item → List Char
  | bare name => name.toList
  | quoted name text =>
      let quote := quoteFor text.toList
      name.toList ++ '=' :: quote :: (text.toList ++ [quote])
  | bound name source => name.toList ++ '=' :: '{' :: (source.toList ++ ['}'])
  | shorthand name => '{' :: (name.toList ++ ['}'])

def ofAttribute : String × AttributeValue → Item
  | (name, .present) => bare name
  | (name, .text text) => quoted name text

def ofBinding (e : String × String) : Item := bound e.1 e.2

/-- The items that give these attributes and then these bindings, each written in full. -/
def ofMaps (attributes : Entries AttributeValue) (bindings : Entries String) : List Item :=
  attributes.map ofAttribute ++ bindings.map ofBinding

def headPrinted (name : String) (items : List Item) : List Char :=
  '<' :: (name.toList ++ items.flatMap fun item => ' ' :: item.printed)

end Item

def Script.printed (script : Script) : List Char :=
  Item.headPrinted Reading.scriptTag (Item.ofMaps script.attributes []) ++
    '>' :: (script.source.toList ++ Reading.scriptTerminator.toList)

namespace Fragment

mutual

def printed : Fragment → List Char
  | mk name attributes bindings children _ _ =>
      Item.headPrinted name (Item.ofMaps attributes bindings) ++
        match children with
        | [] => ['/', '>']
        | child :: rest =>
            '>' :: (printed child ++ allPrinted rest ++ '<' :: '/' :: (name.toList ++ ['>']))

def allPrinted : List Fragment → List Char
  | [] => []
  | f :: fs => printed f ++ allPrinted fs

end

theorem allPrinted_eq_flatMap (fs : List Fragment) : allPrinted fs = fs.flatMap printed := by
  induction fs with
  | nil => rfl
  | cons f fs ih => rw [allPrinted, ih, List.flatMap_cons]

end Fragment

def Document.printed (d : Document) : String :=
  String.ofList (d.scripts.flatMap Script.printed ++ d.fragments.flatMap Fragment.printed)

/-! ### Items -/

namespace Item

variable {item : Item} {items : List Item} {attributes : Entries AttributeValue}
  {bindings : Entries String} {name : String} {text rest : List Char}

theorem isLiteral_quoteFor (h : ∃ quote, isQuote quote ∧ IsLiteral quote text) :
    isQuote (quoteFor text) ∧ IsLiteral (quoteFor text) text := by
  unfold quoteFor
  split
  · next hd => exact ⟨rfl, isLiteral_iff.mp hd⟩
  · next hd =>
    obtain ⟨quote, hq, ht⟩ := h
    rcases Bool.or_eq_true .. ▸ hq with hq | hq
    · exact ⟨rfl, eq_of_beq hq ▸ ht⟩
    · exact absurd (isLiteral_iff.mpr (eq_of_beq hq ▸ ht)) hd

theorem Spellable.spelled (h : item.Spellable) (hr : Stops rest) :
    item.Spelled (item.printed ++ rest) rest := by
  cases item with
  | bare name => simpa [printed] using Spelled.bare (IsIdentifier.longest h hr)
  | quoted name text =>
    obtain ⟨hq, ht⟩ := isLiteral_quoteFor h.2
    have : Spelled _ _ rest := .quoted h.1 hq ht
    simpa [printed] using this
  | bound name source =>
    have : Spelled _ _ rest := .bound h.1 h.2
    simpa [printed] using this
  | shorthand name =>
    have hb : Blanks [] := by simp [Blanks]
    have : Spelled _ _ rest := .shorthand hb h hb
    simpa [printed] using this

theorem exists_items_printed (h : ∀ item ∈ items, item.Spellable) (hr : Stops rest) :
    ∃ w cs, items.flatMap (' ' :: ·.printed) ++ rest = w ++ cs ∧ Blanks w ∧
      Items items cs rest ∧ Stops (w ++ cs) := by
  induction items with
  | nil => exact ⟨[], rest, rfl, by simp [Blanks], .nil, hr⟩
  | cons item items ih =>
    obtain ⟨hi, h⟩ := List.forall_mem_cons.mp h
    obtain ⟨w, cs, he, hw, his, hs⟩ := ih h
    refine ⟨[' '], item.printed ++ (w ++ cs), ?_, ?_, .cons (hi.spelled hs) hw his,
      stops_cons (by decide) (by decide)⟩
    · rw [List.flatMap_cons, List.append_assoc, he]
      rfl
    · simp only [Blanks, List.mem_singleton, forall_eq]
      decide

theorem head_printed (hn : IsTagName name.toList) (h : ∀ item ∈ items, item.Spellable)
    (hc : Consistent items) (hr : Stops rest) :
    Head name.toList items (headPrinted name items ++ rest) rest := by
  obtain ⟨w, cs, he, hw, his, hs⟩ := exists_items_printed h hr
  rw [headPrinted, List.cons_append, List.append_assoc, he]
  refine .mk (w := []) (by simp [Blanks]) (hn.longest ?_) hw his hc
  exact fun c ds hd => (hs c ds hd).1

theorem attributes_ofMaps : Item.attributes (ofMaps attributes bindings) = attributes := by
  have h₁ : ∀ e, (ofAttribute e).attribute? = some e := by rintro ⟨name, _ | _⟩ <;> rfl
  have h₂ : ∀ e, (ofBinding e).attribute? = none := fun _ => rfl
  simp [Item.attributes, ofMaps, List.filterMap_map, h₁, h₂]

theorem filterMap_binding?_ofMaps :
    (ofMaps attributes bindings).filterMap binding? = bindings := by
  have h₁ : ∀ e, (ofAttribute e).binding? = none := by rintro ⟨name, _ | _⟩ <;> rfl
  have h₂ : ∀ e, (ofBinding e).binding? = some e := fun _ => rfl
  simp [ofMaps, List.filterMap_map, h₁, h₂]

theorem bindings_ofMaps (h : (Entries.keys bindings).Nodup) :
    Item.bindings (ofMaps attributes bindings) = bindings := by
  rw [Item.bindings, filterMap_binding?_ofMaps, Entries.ofList_of_nodup h]

theorem spellable_ofMaps (ha : attributes.AreAttributes) (hb : bindings.AreBindings) :
    ∀ item ∈ ofMaps attributes bindings, item.Spellable := by
  intro item hi
  rcases List.mem_append.mp hi with hi | hi
  · obtain ⟨⟨name, text | _⟩, he, rfl⟩ := List.mem_map.mp hi
    · exact ⟨ha.keys _ he, ha.texts _ _ he⟩
    · exact ha.keys _ he
  · obtain ⟨e, he, rfl⟩ := List.mem_map.mp hi
    exact ⟨hb.keys e he, hb.sources e he⟩

theorem consistent_of_nodup (ha : (Entries.keys (Item.attributes items)).Nodup)
    (hb : (Entries.keys (items.filterMap binding?)).Nodup) : Consistent items := by
  rintro before item after rfl hc
  rw [Item.attributes, List.filterMap_append, Entries.keys_append] at ha
  rw [List.filterMap_append, Entries.keys_append] at hb
  have bound {name : String} (h : binders name before ≠ []) :
      name ∈ Entries.keys (before.filterMap binding?) :=
    Entries.mem_keys_ofList.mp (mem_keys_bindings.mpr h)
  cases item with
  | bare name | quoted name text =>
    exact List.disjoint_of_nodup_append ha hc List.mem_cons_self
  | bound name source => exact List.disjoint_of_nodup_append hb (bound hc.1) List.mem_cons_self
  | shorthand name => exact List.disjoint_of_nodup_append hb (bound hc) List.mem_cons_self

theorem consistent_ofMaps (ha : attributes.AreAttributes) (hb : bindings.AreBindings) :
    Consistent (ofMaps attributes bindings) := by
  apply consistent_of_nodup
  · rw [attributes_ofMaps]
    exact ha.nodup
  · rw [filterMap_binding?_ofMaps]
    exact hb.nodup

end Item

/-! ### Nodes -/

theorem Content.flatMap {α : Type} {print : α → List Char} {scriptsOf : α → List Script}
    {fragmentsOf : α → List Fragment} {xs : List α} {cs rest : List Char} {scripts : List Script}
    {fragments : List Fragment}
    (h : ∀ x ∈ xs, ∀ rest, Node (print x ++ rest) rest (scriptsOf x) (fragmentsOf x))
    (hc : Content cs rest scripts fragments) :
    Content (xs.flatMap print ++ cs) rest (xs.flatMap scriptsOf ++ scripts)
      (xs.flatMap fragmentsOf ++ fragments) := by
  induction xs with
  | nil => exact hc
  | cons x xs ih =>
    obtain ⟨hx, h⟩ := List.forall_mem_cons.mp h
    simp only [List.flatMap_cons, List.append_assoc]
    exact .cons (w := []) (hx _) (by simp [Blanks]) (ih h)

theorem isTagName_scriptTag : IsTagName Reading.scriptTag.toList := by
  have h : Reading.scriptTag.toList = ['s', 'c', 'r', 'i', 'p', 't'] := by decide
  rw [h]
  exact isTagName_cons.mpr ⟨by decide, List.all_eq_true.mp (by decide)⟩

theorem Script.WellFormed.node {script : Script} (h : script.WellFormed) (rest : List Char) :
    Node (script.printed ++ rest) rest [script] [] := by
  obtain ⟨source, attributes⟩ := script
  have hb : Entries.AreBindings [] := ⟨List.nodup_nil, by simp, by simp⟩
  have hr : Stops ('>' :: (source.toList ++ (Reading.scriptTerminator.toList ++ rest))) :=
    stops_cons (by decide) (by decide)
  have hh := Item.head_printed isTagName_scriptTag (Item.spellable_ofMaps h.attributes hb)
    (Item.consistent_ofMaps h.attributes hb) hr
  have := Node.script hh h.source
  rw [Item.attributes_ofMaps, String.ofList_toList] at this
  simpa [Script.printed] using this

theorem content_printed {fs : List Fragment} (rest : List Char)
    (h : ∀ f ∈ fs, ∀ rest, Node (f.printed ++ rest) rest [] [f]) :
    Content (fs.flatMap Fragment.printed ++ rest) rest [] fs := by
  have hs : fs.flatMap (fun _ => ([] : List Script)) = [] := List.flatMap_eq_nil_iff.mpr (by simp)
  have hn : Content rest rest [] [] := .nil
  have := Content.flatMap h hn
  simpa [hs] using this

theorem Fragment.printed_of_ne_nil {name : String} {attributes : Entries AttributeValue}
    {bindings : Entries String} {children : List Fragment} {line column : Nat}
    (h : children ≠ []) : (mk name attributes bindings children line column).printed =
      Item.headPrinted name (Item.ofMaps attributes bindings) ++
        '>' :: (children.flatMap printed ++ '<' :: '/' :: (name.toList ++ ['>'])) := by
  cases children with
  | nil => exact absurd rfl h
  | cons child rest => simp [printed, allPrinted_eq_flatMap]

theorem Fragment.WellFormed.node {f : Fragment} (h : f.WellFormed) :
    ∀ rest, Node (f.printed ++ rest) rest [] [f] := by
  induction h with
  | @mk name attributes bindings children line column hn hs ha hb _ ih =>
    intro rest
    have hh {cs : List Char} (hr : Stops cs) := Item.head_printed hn (Item.spellable_ofMaps ha hb)
      (Item.consistent_ofMaps ha hb) hr
    by_cases hc : children = []
    · subst hc
      have hr : Stops ('/' :: '>' :: rest) := stops_cons (by decide) (by decide)
      have : Node _ rest [] [.mk _ _ _ _ line column] := .leaf (hh hr)
      rw [Item.attributes_ofMaps, Item.bindings_ofMaps hb.nodup, String.ofList_toList] at this
      simpa [Fragment.printed] using this
    · have hr : Stops ('>' :: ([] ++ (children.flatMap Fragment.printed ++
          '<' :: '/' :: (name.toList ++ '>' :: rest)))) := stops_cons (by decide) (by decide)
      have : Node _ rest [] [.mk _ _ _ children line column] :=
        .element (hh hr) (by simpa using mt hs hc) (by simp [Blanks]) (content_printed _ ih)
      rw [Item.attributes_ofMaps, Item.bindings_ofMaps hb.nodup, String.ofList_toList] at this
      simpa [Fragment.printed_of_ne_nil hc] using this

namespace Document

/-- What is printed of a well-formed document derives it. -/
theorem WellFormed.derives {d : Document} (h : d.WellFormed) : Derives d.printed.toList d := by
  refine ⟨[], _, (List.nil_append _).symm, by simp [Blanks], ?_⟩
  have hf := content_printed [] fun f hf => (h.fragments f hf).node
  have hn : d.scripts.flatMap (fun _ => ([] : List Fragment)) = [] :=
    List.flatMap_eq_nil_iff.mpr (by simp)
  have := Content.flatMap (fun script hs => (h.scripts script hs).node) hf
  simpa [printed, hn] using this

/-- The documents that parsing returns are the well-formed ones, and parsing what is printed of
such a document returns it. -/
theorem parse_printed (path : Option String) :
    (∀ d : Document, d.WellFormed ↔
      ∃ source d', parse source path = .ok d' ∧ d'.unplaced = d.unplaced) ∧
    (∀ d : Document, d.WellFormed ↔
      ∃ d', parse d.printed path = .ok d' ∧ d'.unplaced = d.unplaced) ∧
    ∀ source d, parse source path = .ok d →
      ∃ d', parse d.printed path = .ok d' ∧ d'.unplaced = d.unplaced := by
  have wellFormed {source : String} {d d' : Document} (h : parse source path = .ok d')
      (he : d'.unplaced = d.unplaced) : d.WellFormed :=
    ((derives_of_parse h).of_unplaced he.symm).wellFormed
  have round {d : Document} (h : d.WellFormed) :
      ∃ d', parse d.printed path = .ok d' ∧ d'.unplaced = d.unplaced :=
    parse_of_derives h.derives path
  refine ⟨fun d => ⟨fun h => ⟨d.printed, round h⟩, ?_⟩, fun d => ⟨round, ?_⟩, ?_⟩
  · rintro ⟨source, d', h, he⟩
    exact wellFormed h he
  · rintro ⟨d', h, he⟩
    exact wellFormed h he
  · exact fun source d h => round (wellFormed h rfl)

/-- A shorthand is printed in full. -/
theorem parse_printed_shorthand :
    parse "<a {b} c/>" none = .ok ⟨[], [.mk "a" [("c", .present)] [("b", "b")] [] 1 1]⟩ ∧
    ∃ d, parse (printed ⟨[], [.mk "a" [("c", .present)] [("b", "b")] [] 1 1]⟩) none = .ok d ∧
      d.unplaced = ⟨[], [.mk "a" [("c", .present)] [("b", "b")] [] 0 0]⟩ := by
  have h : parse "<a {b} c/>" none =
      .ok ⟨[], [.mk "a" [("c", .present)] [("b", "b")] [] 1 1]⟩ := by with_unfolding_all rfl
  exact ⟨h, (parse_printed none).2.2 _ _ h⟩

end Document

end SceneMarkup
