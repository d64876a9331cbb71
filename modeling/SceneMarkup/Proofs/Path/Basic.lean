import SceneMarkup.Path.Basic
import SceneMarkup.Proofs.Text.Splitting

/-! # Paths and their texts

The slashes in front of a text tell where a path starts, and those behind them part its names. A
path in normal form is read back from its text, and a path below another one is found again when it
is taken relative to that.
-/

namespace SceneMarkup

namespace Path

/-- A name that stands for itself in the text of a path. -/
structure IsName (name : String) : Prop where
  ne_empty : name ≠ ""
  ne_dot : name ≠ "."
  slash : '/' ∉ name.toList

/-- A path in normal form; it may hold double dots. -/
def Normal (p : Path) : Prop := ∀ name ∈ p.parts, IsName name

variable {p base : Path} {names : List String} {root : Root}

/-! ### Texts -/

theorem normal_ofText (t : String) : (ofText t).Normal := by
  intro name hm
  obtain ⟨piece, hp, rfl⟩ := List.mem_map.mp hm
  obtain ⟨hs, hn⟩ := List.mem_filter.mp hp
  rw [Bool.and_eq_true, Bool.not_eq_true', List.isEmpty_eq_false_iff, bne_iff_ne] at hn
  constructor
  · rw [ne_eq, ← String.toList_inj]
    simpa using hn.1
  · rw [ne_eq, ← String.toList_inj]
    simpa using hn.2
  · rw [String.toList_ofList]
    intro hc
    exact absurd (Text.exists_mem_splitOnP_iff.mp ⟨piece, hs, hc⟩).2 (by decide)

theorem takeWhile_of_head?_ne {cs : List Char} (h : cs.head? ≠ some '/') :
    cs.takeWhile (· == '/') = [] := by
  cases cs with
  | nil => rfl
  | cons c cs => exact List.takeWhile_cons_of_neg (by simpa using h)

theorem head?_intercalate (hn : ∀ name ∈ names, IsName name) :
    ("/".intercalate names).toList.head? ≠ some '/' := by
  rw [String.toList_intercalate]
  cases names with
  | nil => simp
  | cons name names =>
    obtain ⟨hl, -⟩ := List.forall_mem_cons.mp hn
    obtain ⟨c, cs, hc⟩ : ∃ c cs, name.toList = c :: cs :=
      List.exists_cons_of_ne_nil (by simpa using hl.ne_empty)
    have hne : c ≠ '/' := by
      rintro rfl
      exact hl.slash (by simp [hc])
    cases names with
    | nil => simpa [hc] using hne
    | cons next names => simpa [hc, List.intercalate_cons_cons] using hne

theorem splitOnP_intercalate (hne : names ≠ []) (hn : ∀ name ∈ names, IsName name) :
    Text.splitOnP (· == '/') ("/".intercalate names).toList = names.map String.toList := by
  rw [String.toList_intercalate]
  refine Text.splitOnP_intercalate (by simpa using hne) (fun piece hp c hc => ?_) rfl
  obtain ⟨name, hm, rfl⟩ := List.mem_map.mp hp
  rw [beq_eq_false_iff_ne]
  rintro rfl
  exact (hn name hm).slash hc

theorem filter_splitOnP_intercalate (hn : ∀ name ∈ names, IsName name) :
    ((Text.splitOnP (· == '/') ("/".intercalate names).toList).filter
      fun piece => !piece.isEmpty && piece != ['.']) = names.map String.toList := by
  by_cases hne : names = []
  · subst hne
    rfl
  rw [splitOnP_intercalate hne hn, List.filter_eq_self]
  intro piece hp
  obtain ⟨name, hm, rfl⟩ := List.mem_map.mp hp
  have he : name.toList ≠ [] := fun h => (hn name hm).ne_empty (String.toList_inj.mp h)
  have hd : name.toList ≠ ['.'] := fun h => (hn name hm).ne_dot (String.toList_inj.mp h)
  simp [he, hd]

theorem ofText_append_intercalate (root : Root) (hn : ∀ name ∈ names, IsName name) :
    ofText (root.text ++ "/".intercalate names) = ⟨root, names⟩ := by
  have ht := takeWhile_of_head?_ne (head?_intercalate hn)
  have hf := filter_splitOnP_intercalate hn
  have hs (cs : List Char) : Text.splitOnP (· == '/') ('/' :: cs) =
      [] :: Text.splitOnP (· == '/') cs := Text.splitOnP_cons_of_pos rfl
  unfold ofText
  rw [String.toList_append]
  generalize ("/".intercalate names).toList = body at ht hf
  cases root with
  | relative => simp [Root.text, ht, hf]
  | slash => simp [Root.text, ht, hf, hs]
  | doubleSlash => simp [Root.text, ht, hf, hs]

/-- A path in normal form is read back from its text. -/
theorem ofText_text (h : p.Normal) : ofText p.text = p := by
  obtain ⟨root, parts⟩ := p
  unfold text
  split
  · next hr hp =>
    obtain rfl : root = .relative := hr
    obtain rfl : parts = [] := hp
    rfl
  · exact ofText_append_intercalate root h

/-! ### Paths relative to others -/

theorem join_of_absolute (h : p.isAbsolute) : base.join p = p := if_pos h

theorem join_of_relative (h : p.isAbsolute = false) :
    base.join p = ⟨base.root, base.parts ++ p.parts⟩ :=
  if_neg (by simp [h])

/-- Taken relative to the base, the path does not change when it is taken so again. -/
def Anchored (base p : Path) : Prop :=
  p.isAbsolute ∨ base.isAbsolute ∨ base.parts = []

theorem join_join_iff : base.join (base.join p) = base.join p ↔ Anchored base p := by
  rw [Anchored]
  cases hp : p.isAbsolute with
  | true => simp [join_of_absolute hp]
  | false =>
    have hj : (base.join p).isAbsolute = base.isAbsolute := by
      rw [join_of_relative hp]
      rfl
    cases hb : base.isAbsolute with
    | true => simp [join_of_absolute (hj.trans hb)]
    | false =>
      rw [join_of_relative (hj.trans hb), join_of_relative hp]
      simp

theorem below?_eq_some_iff {q : Path} : p.below? base = some q ↔
    p.root = base.root ∧ q.root = .relative ∧ p.parts = base.parts ++ q.parts := by
  obtain ⟨root, parts⟩ := p
  obtain ⟨root', parts'⟩ := q
  rw [below?]
  split
  · next h =>
    obtain ⟨rest, rfl⟩ := List.isPrefixOf_iff_prefix.mp h.2
    obtain rfl : root = base.root := h.1
    simp [eq_comm]
  · next h =>
    simp only [reduceCtorEq, false_iff, not_and]
    rintro hr - rfl
    exact h ⟨hr, List.isPrefixOf_iff_prefix.mpr (List.prefix_append _ _)⟩

theorem below?_join (h : p.isAbsolute = false) : (base.join p).below? base = some p := by
  rw [below?_eq_some_iff, join_of_relative h]
  exact ⟨rfl, by simpa [isAbsolute] using h, rfl⟩

/-- What is below a base is found again when it is taken relative to the base. -/
theorem join_of_below? {q : Path} (h : p.below? base = some q) : base.join q = p := by
  obtain ⟨hr, hq, hp⟩ := below?_eq_some_iff.mp h
  rw [join_of_relative (by simp [isAbsolute, hq]), ← hr, ← hp]

theorem Normal.join (hb : base.Normal) (h : p.Normal) : (base.join p).Normal := by
  cases hp : p.isAbsolute with
  | true => rwa [join_of_absolute hp]
  | false =>
    rw [join_of_relative hp]
    exact List.forall_mem_append.mpr ⟨hb, h⟩

theorem Normal.of_below? {q : Path} (h : p.Normal) (hb : p.below? base = some q) : q.Normal := by
  obtain ⟨-, -, hp⟩ := below?_eq_some_iff.mp hb
  intro name hm
  exact h name (hp ▸ List.mem_append_right _ hm)

end Path

end SceneMarkup
