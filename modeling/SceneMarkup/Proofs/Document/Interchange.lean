import SceneMarkup.Proofs.Document.Decoding
import SceneMarkup.Proofs.Json.Keys
import SceneMarkup.Proofs.Json.RoundTrip

/-! # Documents as JSON text

Every level of fragments opens two containers, so the limit of the writer is one on the depth of the
document. A text within it is read back, and texts of different documents are of different values.
-/

namespace SceneMarkup

open Json (Textual writable)

/-! ### Distinct keys -/

/-- Every map in the fragment has distinct keys. -/
inductive Fragment.Keyed : Fragment → Prop where
  | mk {f : Fragment} (attributes : (Entries.keys f.attributes).Nodup)
      (bindings : (Entries.keys f.bindings).Nodup) (children : ∀ child ∈ f.children, Keyed child) :
      Keyed f

/-- Every map in the document has distinct keys. -/
structure Document.Keyed (d : Document) : Prop where
  scripts : ∀ s ∈ d.scripts, (Entries.keys s.attributes).Nodup
  fragments : ∀ f ∈ d.fragments, f.Keyed

variable {α : Type} {n q : Nat}

theorem textual_map {write : α → Json} (hw : ∀ v, Textual (write v)) {m : Entries α}
    (h : (Entries.keys m).Nodup) : Textual (.object (m.map fun e => (e.1, write e.2))) := by
  refine .object ?_ fun e he => ?_
  · rw [Entries.keys, List.map_map]
    exact h
  · obtain ⟨e, -, rfl⟩ := List.mem_map.mp he
    exact hw e.2

theorem AttributeValue.textual_toJson (v : AttributeValue) : Textual v.toJson := by
  cases v with
  | text s => exact .string s
  | present => exact .bool true

theorem Script.mem_members {s : Script} {m : String × Json} :
    m ∈ s.members ↔
      (s.attributes ≠ [] ∧ m = ("attributes", attributesToJson s.attributes)) ∨
        m = ("source", .string s.source) := by
  simp [members, mem_optionalMember]

theorem Script.textual_toJson {s : Script} (h : (Entries.keys s.attributes).Nodup) :
    Textual s.toJson := by
  have hk : (Entries.keys s.members).Sublist ["attributes", "source"] := by
    rw [members, Entries.keys_append]
    exact (keys_optionalMember_sublist ..).append (List.Sublist.refl ["source"])
  refine .object (.sublist hk (by decide)) fun m hm => ?_
  obtain ⟨-, rfl⟩ | rfl := mem_members.mp hm
  · exact textual_map AttributeValue.textual_toJson h
  · exact .string s.source

namespace Fragment

theorem mem_members {f : Fragment} {m : String × Json} :
    m ∈ f.members ↔ m = ("name", .string f.name) ∨
      (f.attributes ≠ [] ∧ m = ("attributes", attributesToJson f.attributes)) ∨
        (f.bindings ≠ [] ∧ m = ("bindings", bindingsToJson f.bindings)) ∨
          f.children ≠ [] ∧ m = ("children", .array (f.children.map toJson)) := by
  simp [members, mem_optionalMember]

theorem textual_toJson {f : Fragment} (h : f.Keyed) : Textual f.toJson := by
  induction h with
  | @mk f ha hb _ ih =>
    have hk : (Entries.keys f.members).Sublist ["name", "attributes", "bindings", "children"] := by
      rw [members, Entries.keys_cons, Entries.keys_append, Entries.keys_append, List.append_assoc]
      exact ((keys_optionalMember_sublist ..).append ((keys_optionalMember_sublist ..).append
        (keys_optionalMember_sublist ..))).cons_cons "name"
    rw [toJson_eq]
    refine .object (.sublist hk (by decide)) fun m hm => ?_
    obtain rfl | ⟨-, rfl⟩ | ⟨-, rfl⟩ | ⟨-, rfl⟩ := mem_members.mp hm
    · exact .string f.name
    · exact textual_map AttributeValue.textual_toJson ha
    · exact textual_map Textual.string hb
    · refine .array fun x hx => ?_
      obtain ⟨child, hc, rfl⟩ := List.mem_map.mp hx
      exact ih child hc

end Fragment

theorem Document.textual_toJson {d : Document} (h : d.Keyed) : Textual d.toJson := by
  have hs : Textual (.array (d.scripts.map Script.toJson)) := by
    refine .array fun x hx => ?_
    obtain ⟨s, hs, rfl⟩ := List.mem_map.mp hx
    exact Script.textual_toJson (h.scripts s hs)
  have hf : Textual (.array (Fragment.allToJson d.fragments)) := by
    rw [Fragment.allToJson_eq_map]
    refine .array fun x hx => ?_
    obtain ⟨f, hf, rfl⟩ := List.mem_map.mp hx
    exact Fragment.textual_toJson (h.fragments f hf)
  refine .object (by simp) fun m hm => ?_
  obtain rfl | rfl : m = _ ∨ m = _ := by simpa using hm
  · exact hs
  · exact hf

/-! ### The limit of the writer -/

theorem Json.writable_array_iff {xs : List Json} :
    writable (n + 1) (.array xs) ↔ ∀ x ∈ xs, writable n x := by
  rw [writable]
  induction xs with
  | nil => simp [writableElements]
  | cons x xs ih => rw [writableElements, Bool.and_eq_true, ih, List.forall_mem_cons]

theorem Json.writable_object_iff {ms : List (String × Json)} :
    writable (n + 1) (.object ms) ↔ ∀ m ∈ ms, writable n m.2 := by
  rw [writable]
  induction ms with
  | nil => simp [writableMembers]
  | cons m ms ih => rw [writableMembers, Bool.and_eq_true, ih, List.forall_mem_cons]

theorem writable_map {write : α → Json} (hw : ∀ v, writable n (write v)) (m : Entries α) :
    writable (n + 1) (.object (m.map fun e => (e.1, write e.2))) := by
  rw [Json.writable_object_iff]
  intro e he
  obtain ⟨e, -, rfl⟩ := List.mem_map.mp he
  exact hw e.2

theorem writable_attributesToJson (attributes : Entries AttributeValue) :
    writable (n + 1) (attributesToJson attributes) :=
  writable_map (fun v => by cases v <;> simp [AttributeValue.toJson, writable]) attributes

theorem writable_bindingsToJson (bindings : Entries String) :
    writable (n + 1) (bindingsToJson bindings) :=
  writable_map (fun s => by simp [writable]) bindings

theorem Script.writable_toJson (s : Script) : writable (n + 2) s.toJson := by
  rw [toJson_eq, Json.writable_object_iff]
  intro m hm
  obtain ⟨-, rfl⟩ | rfl := mem_members.mp hm
  · exact writable_attributesToJson s.attributes
  · simp [writable]

/-- A fragment opens two containers for each of its levels, one for its members and one for its
attributes, its bindings or its children. -/
theorem Fragment.writable_toJson_iff {f : Fragment} : writable (2 * q) f.toJson ↔ f.depth ≤ q := by
  induction f using induct generalizing q with
  | mk name attributes bindings children line column ih =>
    cases q with
    | zero => simp [toJson, depth, writable]
    | succ q =>
      have hc : writable (2 * q + 1) (.array (children.map toJson)) ↔ depthAll children ≤ q := by
        rw [Json.writable_array_iff, depthAll_le_iff, List.forall_mem_map]
        exact forall₂_congr fun child hm => ih child hm
      rw [toJson_eq, depth, Nat.add_comm 1, Nat.add_le_add_iff_right, ← hc, Nat.mul_succ,
        Json.writable_object_iff]
      constructor
      · intro h
        by_cases hn : children = []
        · simp [hn, Json.writable_array_iff]
        · exact h ("children", _) (mem_members.mpr (.inr (.inr (.inr ⟨hn, rfl⟩))))
      · intro h m hm
        obtain rfl | ⟨-, rfl⟩ | ⟨-, rfl⟩ | ⟨-, rfl⟩ := mem_members.mp hm
        · simp [writable]
        · exact writable_attributesToJson attributes
        · exact writable_bindingsToJson bindings
        · exact h

/-- A document opens two containers around its fragments. -/
theorem Document.writable_toJson_iff {d : Document} :
    writable (2 * (q + 1) + 2) d.toJson ↔ Fragment.depthAll d.fragments ≤ q + 1 := by
  have hs : writable (2 * (q + 1) + 1) (.array (d.scripts.map Script.toJson)) := by
    rw [Json.writable_array_iff, List.forall_mem_map]
    exact fun s _ => s.writable_toJson
  have hf : writable (2 * (q + 1) + 1) (.array (Fragment.allToJson d.fragments)) ↔
      Fragment.depthAll d.fragments ≤ q + 1 := by
    rw [Json.writable_array_iff, Fragment.allToJson_eq_map, List.forall_mem_map,
      Fragment.depthAll_le_iff]
    exact forall₂_congr fun f _ => Fragment.writable_toJson_iff
  rw [toJson, Json.writable_object_iff, List.forall_mem_cons, List.forall_mem_singleton, hf]
  exact and_iff_right hs

theorem Document.writable_iff {d : Document} :
    writable 254 d.toJson ↔ Fragment.depthAll d.fragments ≤ 126 :=
  writable_toJson_iff (q := 125)

theorem Document.exists_jsonText_error_of_lt {d : Document} {room : Room}
    (hc : room.containers = 254) (hl : 126 < Fragment.depthAll d.fragments) (indented : Bool) :
    ∃ fault, d.jsonText room indented = .error fault := by
  rw [jsonText, Json.write?, hc, if_neg (mt writable_iff.mp (Nat.not_le.mpr hl))]
  split
  · exact ⟨_, rfl⟩
  · exact ⟨_, rfl⟩

theorem Document.exists_jsonText_error_iff {d : Document} {room : Room} {indented : Bool}
    (hc : room.containers = 254) (hr : 126 ≤ room.levels) :
    (∃ fault, d.jsonText room indented = .error fault) ↔
      126 < Fragment.depthAll d.fragments := by
  refine ⟨fun h => ?_, fun hl => exists_jsonText_error_of_lt hc hl indented⟩
  by_contra hl
  have hw := writable_iff.mpr (Nat.le_of_not_lt hl)
  rw [jsonText, Json.write?, hc, if_neg (by omega), if_pos hw] at h
  obtain ⟨fault, hf⟩ := h
  cases hf

theorem Document.write?_of_jsonText {d : Document} {room : Room} {indented : Bool} {text : String}
    (h : d.jsonText room indented = .ok text) :
    d.toJson.write? room.containers indented = some text := by
  rw [jsonText] at h
  split at h
  · cases h
  · split at h
    · next hw => rw [hw, Except.ok.inj h]
    · cases h

/-! ### The same values -/

open Value (Same SameIfAny same_table_iff same_list_iff)

theorem AttributeValue.same_toJson_iff (v w : AttributeValue) :
    Same (.ofJson v.toJson) (.ofJson w.toJson) ↔ v = w := by
  constructor
  · intro h
    have hb := h.bare_eq
    cases v <;> cases w <;> simp_all [toJson, Value.ofJson, Value.bare]
  · rintro rfl
    exact .refl _

theorem same_string_iff (s t : String) :
    Same (.ofJson (.string s)) (.ofJson (.string t)) ↔ s = t := by
  constructor
  · exact fun h => Value.text.inj h.bare_eq
  · rintro rfl
    exact .refl _

theorem same_map_iff [DecidableEq α] {write : α → Json} {m n : Entries α}
    (hw : ∀ v w, Same (.ofJson (write v)) (.ofJson (write w)) ↔ v = w)
    (hm : (Entries.keys m).Nodup) (hn : (Entries.keys n).Nodup) :
    Same (.ofJson (.object (m.map fun e => (e.1, write e.2))))
        (.ofJson (.object (n.map fun e => (e.1, write e.2)))) ↔ m.agrees (· == ·) n := by
  rw [Json.ofJson_object, Json.ofJson_object, same_table_iff, Entries.agrees_iff hm hn]
  refine forall_congr' fun key => ?_
  rw [Entries.get?_map, Entries.get?_map, Entries.get?_map, Entries.get?_map]
  cases m.get? key with
  | none =>
    cases n.get? key with
    | none => exact iff_of_true (.refl _) rfl
    | some w => exact iff_of_false Value.not_sameIfAny_none_some nofun
  | some v =>
    cases n.get? key with
    | none => exact iff_of_false Value.not_sameIfAny_some_none nofun
    | some w => exact (hw v w).trans Option.some_inj.symm

theorem same_held_iff {items items' : List α} {x y : Json} {same : Prop}
    (h : Same (.ofJson x) (.ofJson y) ↔ same) (hl : same → items.length = items'.length)
    (he : items = [] → items' = [] → same) :
    SameIfAny ((held items x).map .ofJson) ((held items' y).map .ofJson) ↔ same := by
  cases items with
  | nil =>
    cases items' with
    | nil => exact iff_of_true (.refl _) (he rfl rfl)
    | cons b items' => exact iff_of_false Value.not_sameIfAny_none_some fun hs => nomatch hl hs
  | cons a items =>
    cases items' with
    | nil => exact iff_of_false Value.not_sameIfAny_some_none fun hs => nomatch hl hs
    | cons b items' => exact h

theorem same_held_map_iff [DecidableEq α] {write : α → Json} {m n : Entries α}
    (hw : ∀ v w, Same (.ofJson (write v)) (.ofJson (write w)) ↔ v = w)
    (hm : (Entries.keys m).Nodup) (hn : (Entries.keys n).Nodup) :
    SameIfAny ((held m (.object (m.map fun e => (e.1, write e.2)))).map .ofJson)
        ((held n (.object (n.map fun e => (e.1, write e.2)))).map .ofJson) ↔
      m.agrees (· == ·) n := by
  refine same_held_iff (same_map_iff hw hm hn) (fun h => (Entries.agrees_iff_of_mem.mp h).1) ?_
  rintro rfl rfl
  rfl

theorem same_attributesToJson_iff {m n : Entries AttributeValue} (hm : (Entries.keys m).Nodup)
    (hn : (Entries.keys n).Nodup) :
    SameIfAny ((held m (attributesToJson m)).map .ofJson)
      ((held n (attributesToJson n)).map .ofJson) ↔ m.agrees (· == ·) n :=
  same_held_map_iff AttributeValue.same_toJson_iff hm hn

theorem same_bindingsToJson_iff {m n : Entries String} (hm : (Entries.keys m).Nodup)
    (hn : (Entries.keys n).Nodup) :
    SameIfAny ((held m (bindingsToJson m)).map .ofJson)
      ((held n (bindingsToJson n)).map .ofJson) ↔ m.agrees (· == ·) n :=
  same_held_map_iff same_string_iff hm hn

theorem same_array_iff {write : α → Json} {related : α → α → Prop} {xs ys : List α}
    (h : ∀ x ∈ xs, ∀ y ∈ ys, (Same (.ofJson (write x)) (.ofJson (write y)) ↔ related x y)) :
    Same (.ofJson (.array (xs.map write))) (.ofJson (.array (ys.map write))) ↔
      List.Forall₂ related xs ys := by
  rw [Json.ofJson_array, Json.ofJson_array, same_list_iff, List.forall₂_map_left_iff,
    List.forall₂_map_left_iff, List.forall₂_map_right_iff, List.forall₂_map_right_iff]
  induction xs generalizing ys with
  | nil => simp
  | cons x xs ih =>
    cases ys with
    | nil => simp
    | cons y ys =>
      rw [List.forall₂_cons, List.forall₂_cons, h x (by simp) y (by simp),
        ih fun x hx y hy => h x (by simp [hx]) y (by simp [hy])]

theorem Script.same_toJson_iff {s t : Script} (hs : (Entries.keys s.attributes).Nodup)
    (ht : (Entries.keys t.attributes).Nodup) :
    Same (.ofJson s.toJson) (.ofJson t.toJson) ↔
      s.source = t.source ∧ s.attributes.agrees (· == ·) t.attributes := by
  have ha := same_attributesToJson_iff hs ht
  rw [toJson_eq, toJson_eq, Json.ofJson_object, Json.ofJson_object, same_table_iff]
  simp only [Entries.get?_map, get?_members]
  constructor
  · intro h
    refine ⟨?_, ha.mp ?_⟩
    · simpa [Value.sameIfAny_some_iff, same_string_iff] using h "source"
    · simpa using h "attributes"
  · rintro ⟨hs, hm⟩ key
    split_ifs with h₁ h₂
    · exact ha.mpr hm
    · rw [hs]
      exact .refl _
    · exact .refl _

namespace Fragment

variable {f g : Fragment} {fs gs : List Fragment}

theorem allAlike_iff : allAlike fs gs ↔ List.Forall₂ (fun f g => f.alike g) fs gs := by
  induction fs generalizing gs with
  | nil => cases gs <;> simp [allAlike]
  | cons f fs ih => cases gs <;> simp [allAlike, ih]

theorem alike_iff : f.alike g ↔ f.name = g.name ∧ f.attributes.agrees (· == ·) g.attributes ∧
    f.bindings.agrees (· == ·) g.bindings ∧ allAlike f.children g.children := by
  cases f
  simp [alike, name, attributes, bindings, children, and_assoc]

theorem same_toJson_iff (hf : f.Keyed) (hg : g.Keyed) :
    Same (.ofJson f.toJson) (.ofJson g.toJson) ↔ f.alike g := by
  induction hf generalizing g with
  | @mk f hfa hfb hfc ih =>
    obtain ⟨hga, hgb, hgc⟩ := hg
    have ha := same_attributesToJson_iff hfa hga
    have hb := same_bindingsToJson_iff hfb hgb
    have hc := same_held_iff
      (same_array_iff fun child hm child' hm' => ih child hm (hgc child' hm'))
      (fun h => h.length_eq) (fun hf hg => by rw [hf, hg]; exact .nil)
    rw [toJson_eq, toJson_eq, Json.ofJson_object, Json.ofJson_object, same_table_iff, alike_iff,
      allAlike_iff]
    simp only [Entries.get?_map, get?_members]
    constructor
    · intro h
      refine ⟨?_, ha.mp ?_, hb.mp ?_, hc.mp ?_⟩
      · simpa [Value.sameIfAny_some_iff, same_string_iff] using h "name"
      · simpa using h "attributes"
      · simpa using h "bindings"
      · simpa using h "children"
    · rintro ⟨hn, hm, hm', hs⟩ key
      split_ifs with h₁ h₂ h₃ h₄
      · rw [hn]
        exact .refl _
      · exact ha.mpr hm
      · exact hb.mpr hm'
      · exact hc.mpr hs
      · exact .refl _

end Fragment

namespace Document

variable {d e : Document}

theorem scriptsAlike_iff : d.scriptsAlike e ↔ List.Forall₂
    (fun s t => s.source = t.source ∧ s.attributes.agrees (· == ·) t.attributes)
    d.scripts e.scripts := by
  rw [scriptsAlike, Bool.and_eq_true, beq_iff_eq, List.forall₂_iff_zip, List.all_eq_true]
  refine and_congr_right fun _ => ⟨fun h s t hm => ?_, fun h x hm => ?_⟩
  · simpa using h (s, t) hm
  · simpa using h hm

theorem same_toJson_iff (hd : d.Keyed) (he : e.Keyed) :
    Same (.ofJson d.toJson) (.ofJson e.toJson) ↔ d.alike e := by
  have hs : Same (.ofJson (.array (d.scripts.map Script.toJson)))
      (.ofJson (.array (e.scripts.map Script.toJson))) ↔ d.scriptsAlike e := by
    rw [scriptsAlike_iff]
    exact same_array_iff fun s hs t ht =>
      Script.same_toJson_iff (hd.scripts s hs) (he.scripts t ht)
  have hf : Same (.ofJson (.array (Fragment.allToJson d.fragments)))
      (.ofJson (.array (Fragment.allToJson e.fragments))) ↔
        Fragment.allAlike d.fragments e.fragments := by
    rw [Fragment.allToJson_eq_map, Fragment.allToJson_eq_map, Fragment.allAlike_iff]
    exact same_array_iff fun f hf g hg =>
      Fragment.same_toJson_iff (hd.fragments f hf) (he.fragments g hg)
  rw [alike, Bool.and_eq_true, ← hs, ← hf, toJson, toJson, Json.ofJson_object, Json.ofJson_object,
    same_table_iff]
  constructor
  · exact fun h => ⟨h "scripts", h "fragments"⟩
  · rintro ⟨hs, hf⟩ key
    simp only [List.map_cons, List.map_nil, Entries.get?]
    split_ifs
    · exact hs
    · exact hf
    · exact .refl _

/-- A comparison that reaches every level has a verdict. -/
theorem alike?_eq {levels : Nat} (h : Fragment.depthAll d.fragments ≤ levels) :
    d.alike? levels e = some (d.alike e) := by
  rw [alike?, alike]
  by_cases hl : d.fragments.length = e.fragments.length
  · rw [Fragment.allAlikeWithin?_eq
      (fun f hf g => Fragment.alikeWithin?_eq (Fragment.depthAll_le_iff.mp h f hf) g) hl,
      beq_iff_eq.mpr hl, Bool.and_true]
    split
    · next hs => rw [hs, Bool.true_and]
    · next hs => rw [Bool.eq_false_iff.mpr hs, Bool.false_and]
  · rw [Fragment.allAlike_eq_false hl, beq_eq_false_iff_ne.mpr hl, Bool.and_false,
      if_neg Bool.false_ne_true]

/-- Where a text opens 254 containers inside one another and the stack takes 126 levels of
fragments, the JSON text of a document, in either layout, loses nothing but the places of fragments.
There is none exactly when some fragment stands within 126 others. -/
theorem jsonText_lossless {room : Room} {levels : Nat} {dialect : Json.Dialect}
    (hc : room.containers = 254) (hw : 126 ≤ room.levels) (hv : 126 ≤ levels)
    (hr : 254 ≤ dialect.maxDepth) (hd : d.Keyed) (he : e.Keyed) :
    (∀ indented, (∃ fault, d.jsonText room indented = .error fault) ↔
      ∃ entry ∈ d.walkLevels, 127 ≤ entry.1 + 1) ∧
    (∀ indented text, d.jsonText room indented = .ok text →
      Json.read? dialect text = some d.toJson ∧ ofJson? d.toJson = some d.unplaced) ∧
    ∀ indented indented' text text', d.jsonText room indented = .ok text →
      e.jsonText room indented' = .ok text' →
      ∃ v w same, Json.read? dialect text = some v ∧ Json.read? dialect text' = some w ∧
        d.alike? levels e = some same ∧ (Same (.ofJson v) (.ofJson w) ↔ same) := by
  rw [← hc] at hr
  refine ⟨fun indented => ?_, fun indented text ht => ?_, ?_⟩
  · rw [exists_jsonText_error_iff hc hw, ← exists_mem_walkLevels_iff]
    simp only [Nat.reduceLeDiff]
  · exact ⟨Json.read?_write? hr (textual_toJson hd) (write?_of_jsonText ht), ofJson?_toJson d⟩
  · intro indented indented' text text' ht ht'
    have hl : Fragment.depthAll d.fragments ≤ 126 := by
      refine Nat.le_of_not_lt fun hl => ?_
      obtain ⟨fault, hf⟩ := exists_jsonText_error_of_lt hc hl indented
      cases ht.symm.trans hf
    exact ⟨d.toJson, e.toJson, d.alike e,
      Json.read?_write? hr (textual_toJson hd) (write?_of_jsonText ht),
      Json.read?_write? hr (textual_toJson he) (write?_of_jsonText ht'),
      alike?_eq (Nat.le_trans hl hv), same_toJson_iff hd he⟩

/-- A document of one element with one attribute. -/
def boxed (v : AttributeValue) : Document := ⟨[], [.mk "box" [("visible", v)] [] [] 1 1]⟩

theorem boxed_keyed (v : AttributeValue) : (boxed v).Keyed := by
  refine ⟨nofun, fun f hf => ?_⟩
  rw [List.mem_singleton.mp hf]
  exact .mk (List.nodup_singleton _) List.nodup_nil nofun

/-- The compact text of that document when its attribute is only present. -/
def boxedText : String :=
  String.join ["\x7b\"scripts\":[],\"fragments\":[\x7b\"name\":\"box\",",
    "\"attributes\":\x7b\"visible\":true\x7d\x7d]\x7d"]

/-- Room for a hundred and fifty levels, and for texts that open 254 containers. -/
def roomy : Room := ⟨150, 254⟩

/-- A dialect in which values nest as deeply as they are written. -/
def wordy : Json.Dialect := ⟨254, Json.isWord⟩

theorem jsonText_lossless_boxed :
    roomy.containers = 254 ∧ 126 ≤ roomy.levels ∧ 254 ≤ wordy.maxDepth ∧ (boxed .present).Keyed ∧
      (boxed (.text "true")).Keyed ∧
      Json.read? wordy boxedText = some (boxed .present).toJson ∧
      ¬ Same (.ofJson (boxed .present).toJson) (.ofJson (boxed (.text "true")).toJson) := by
  have hc : roomy.containers = 254 := rfl
  have hw : 126 ≤ roomy.levels := by decide
  have hv : 126 ≤ 150 := by decide
  have hr : 254 ≤ wordy.maxDepth := Nat.le_refl _
  have hp := boxed_keyed .present
  have hq := boxed_keyed (.text "true")
  obtain ⟨-, hread, hsame⟩ := jsonText_lossless hc hw hv hr hp hq
  obtain ⟨-, hread', -⟩ := jsonText_lossless hc hw hv hr hq hp
  have ht : (boxed .present).jsonText roomy false = .ok boxedText := by with_unfolding_all rfl
  obtain ⟨text, ht'⟩ : ∃ text, (boxed (.text "true")).jsonText roomy true = .ok text :=
    ⟨_, by with_unfolding_all rfl⟩
  obtain ⟨v, w, same, hv, hw, ha, hs⟩ := hsame _ _ _ _ ht ht'
  rw [(hread _ _ ht).1] at hv
  rw [(hread' _ _ ht').1] at hw
  cases hv
  cases hw
  cases (show some false = some same from ha)
  exact ⟨hc, hw, hr, hp, hq, (hread _ _ ht).1, fun h => nomatch hs.mp h⟩

end Document

end SceneMarkup
