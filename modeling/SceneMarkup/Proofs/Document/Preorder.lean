import SceneMarkup.Document.Outline
import SceneMarkup.Proofs.Document.Interchange
import SceneMarkup.Proofs.Document.Order

/-! # Preorder

The loops that walk over a document list each fragment in front of what is inside it, as the
recursion over the forest does. From such a list with depths the forest can be told: what stands
deeper behind a fragment is inside it.
-/

namespace SceneMarkup

namespace Fragment

mutual

/-- The fragment, then its children one after the other, each with all inside it. -/
def preorder : Fragment → List Fragment
  | mk name attributes bindings children line column =>
      mk name attributes bindings children line column :: allPreorder children

def allPreorder : List Fragment → List Fragment
  | [] => []
  | f :: fs => preorder f ++ allPreorder fs

end

mutual

/-- The same list with the level of every fragment, given that of the first. -/
def leveled (level : Nat) : Fragment → List (Nat × Fragment)
  | mk name attributes bindings children line column =>
      (level, mk name attributes bindings children line column) :: allLeveled (level + 1) children

def allLeveled (level : Nat) : List Fragment → List (Nat × Fragment)
  | [] => []
  | f :: fs => leveled level f ++ allLeveled level fs

end

/-- The same level, and fragments that are alike but for what is inside them. -/
def LooksLike (e e' : Nat × Fragment) : Prop :=
  e.1 = e'.1 ∧ e.2.name = e'.2.name ∧ e.2.attributes.agrees (· == ·) e'.2.attributes ∧
    e.2.bindings.agrees (· == ·) e'.2.bindings

variable {f g : Fragment} {fs gs : List Fragment} {n : Nat}
  {entries entries' : List (Nat × Fragment)}

/-! ### The loops -/

theorem preorder_eq (f : Fragment) : f.preorder = f :: allPreorder f.children := by
  cases f
  rw [preorder, children]

theorem leveled_eq (n : Nat) (f : Fragment) :
    f.leveled n = (n, f) :: allLeveled (n + 1) f.children := by
  cases f
  rw [leveled, children]

theorem allPreorder_eq_flatMap (fs : List Fragment) : allPreorder fs = fs.flatMap preorder := by
  induction fs with
  | nil => rfl
  | cons f fs ih => rw [allPreorder, ih, List.flatMap_cons]

theorem allLeveled_eq_flatMap (n : Nat) (fs : List Fragment) :
    allLeveled n fs = fs.flatMap (leveled n) := by
  induction fs with
  | nil => rfl
  | cons f fs ih => rw [allLeveled, ih, List.flatMap_cons]

theorem visit_eq (visited pending : List Fragment) :
    visit visited pending = visited.reverse ++ allPreorder pending := by
  fun_induction visit visited pending with
  | case1 visited => rw [allPreorder, List.append_nil]
  | case2 visited f pending ih =>
    rw [ih, allPreorder, preorder_eq, allPreorder_eq_flatMap, List.flatMap_append,
      ← allPreorder_eq_flatMap, ← allPreorder_eq_flatMap]
    simp

theorem visitLevels_eq (visited pending : List (Nat × Fragment)) :
    visitLevels visited pending =
      visited.reverse ++ pending.flatMap fun e => e.2.leveled e.1 := by
  induction visited, pending using visitLevels.induct with
  | case1 visited => simp [visitLevels]
  | case2 visited level f pending ih =>
    have hc : (f.children.map (level + 1, ·)).flatMap (fun e => e.2.leveled e.1) =
        allLeveled (level + 1) f.children := by
      rw [allLeveled_eq_flatMap, List.flatMap_map]
    rw [visitLevels, ih, List.flatMap_append, hc, List.flatMap_cons, leveled_eq]
    simp

theorem walk_eq_preorder (f : Fragment) : f.walk = f.preorder := by
  rw [walk, visit_eq, allPreorder, allPreorder, List.append_nil, List.reverse_nil,
    List.nil_append]

theorem map_snd_leveled (n : Nat) (f : Fragment) :
    (f.leveled n).map Prod.snd = f.preorder := by
  induction f using induct generalizing n with
  | mk name attributes bindings children line column ih =>
    rw [leveled, preorder, List.map_cons, allLeveled_eq_flatMap, allPreorder_eq_flatMap,
      List.map_flatMap]
    rw [List.flatMap_congr fun child hc => ih child hc (n + 1)]

theorem map_snd_allLeveled (n : Nat) (fs : List Fragment) :
    (allLeveled n fs).map Prod.snd = allPreorder fs := by
  rw [allLeveled_eq_flatMap, allPreorder_eq_flatMap, List.map_flatMap]
  exact List.flatMap_congr fun f _ => map_snd_leveled n f

/-! ### What a list with levels tells -/

/-- What comes next, if anything does, stands further out than the level. -/
def Leaves (n : Nat) (entries : List (Nat × Fragment)) : Prop := ∀ e ∈ entries.head?, e.1 < n

theorem Leaves.append_allLeveled (h : Leaves n entries) (fs : List Fragment) :
    Leaves (n + 1) (allLeveled n fs ++ entries) := by
  cases fs with
  | nil =>
    intro e he
    exact Nat.lt_succ_of_lt (h e he)
  | cons f fs =>
    rw [allLeveled, leveled_eq]
    rintro e he
    obtain rfl : (n, f) = e := Option.some.inj he
    exact Nat.lt_succ_self n

/-- A forest does not begin where its level is left. -/
theorem Leaves.not_forall₂ (h : Leaves n entries) :
    ¬ List.Forall₂ (fun e e' => e.1 = e'.1) entries (allLeveled n (g :: gs) ++ entries') := by
  rw [allLeveled, leveled_eq]
  rintro (_ | ⟨hl, -⟩)
  exact absurd (h _ rfl) (by simp [hl])

/-- The part of a list that is about the fragment tells what it looks like, and where it ends. -/
def Told (f : Fragment) : Prop :=
  ∀ n g entries entries', Leaves (n + 1) entries → Leaves (n + 1) entries' →
    List.Forall₂ LooksLike (f.leveled n ++ entries) (g.leveled n ++ entries') →
    f.alike g ∧ List.Forall₂ LooksLike entries entries'

theorem allAlike_of_told (ht : ∀ f ∈ fs, f.Told) (hl : Leaves n entries) (hl' : Leaves n entries')
    (h : List.Forall₂ LooksLike (allLeveled n fs ++ entries) (allLeveled n gs ++ entries')) :
    allAlike fs gs ∧ List.Forall₂ LooksLike entries entries' := by
  have levels {es es' : List (Nat × Fragment)} (h : List.Forall₂ LooksLike es es') :
      List.Forall₂ (fun e e' => e.1 = e'.1) es es' := h.imp fun _ _ he => he.1
  -- Where one of the forests ends its level is left, so that the other ends there too.
  induction fs generalizing gs with
  | nil =>
    cases gs with
    | nil => exact ⟨rfl, h⟩
    | cons g gs => exact absurd (levels h) hl.not_forall₂
  | cons f fs ih =>
    cases gs with
    | nil => exact absurd ((levels h).flip.imp fun _ _ => Eq.symm) hl'.not_forall₂
    | cons g gs =>
      obtain ⟨hf, hs⟩ := List.forall_mem_cons.mp ht
      rw [allLeveled, allLeveled, List.append_assoc, List.append_assoc] at h
      obtain ⟨ha, hr⟩ := hf n g _ _ (hl.append_allLeveled fs) (hl'.append_allLeveled gs) h
      obtain ⟨has, hr⟩ := ih hs hr
      exact ⟨by rw [allAlike, ha, has, Bool.true_and], hr⟩

theorem told (f : Fragment) : f.Told := by
  induction f using induct with
  | mk name attributes bindings children line column ih =>
    intro n g entries entries' hl hl' h
    rw [leveled_eq, leveled_eq, List.cons_append, List.cons_append, List.forall₂_cons] at h
    obtain ⟨⟨-, hn, ha, hb⟩, hc⟩ := h
    obtain ⟨hc, hr⟩ := allAlike_of_told ih hl hl' hc
    exact ⟨alike_iff.mpr ⟨hn, ha, hb, hc⟩, hr⟩

theorem forall₂_allLeveled_of_alike
    (hl : ∀ f ∈ fs, ∀ g, f.alike g → List.Forall₂ LooksLike (f.leveled n) (g.leveled n))
    (h : allAlike fs gs) : List.Forall₂ LooksLike (allLeveled n fs) (allLeveled n gs) := by
  induction fs generalizing gs with
  | nil =>
    cases gs with
    | nil => exact .nil
    | cons g gs => cases h
  | cons f fs ih =>
    cases gs with
    | nil => cases h
    | cons g gs =>
      obtain ⟨hf, hs⟩ := List.forall_mem_cons.mp hl
      rw [allAlike, Bool.and_eq_true] at h
      exact List.rel_append (hf g h.1) (ih hs h.2)

theorem forall₂_leveled (h : f.alike g) (n : Nat) :
    List.Forall₂ LooksLike (f.leveled n) (g.leveled n) := by
  induction f using induct generalizing g n with
  | mk name attributes bindings children line column ih =>
    obtain ⟨hn, ha, hb, hc⟩ := alike_iff.mp h
    rw [leveled_eq, leveled_eq]
    refine .cons ⟨rfl, hn, ha, hb⟩ (forall₂_allLeveled_of_alike ?_ hc)
    exact fun child hm g hg => ih child hm hg (n + 1)

/-- Forests are alike exactly when they are listed alike. -/
theorem forall₂_allLeveled_iff :
    List.Forall₂ LooksLike (allLeveled n fs) (allLeveled n gs) ↔ allAlike fs gs := by
  constructor
  · intro h
    have hn : Leaves n [] := fun e he => nomatch he
    rw [← List.append_nil (allLeveled n fs), ← List.append_nil (allLeveled n gs)] at h
    exact (allAlike_of_told (fun f _ => f.told) hn hn h).1
  · exact forall₂_allLeveled_of_alike fun f _ g h => forall₂_leveled h n

end Fragment

namespace Document

open Fragment (LooksLike allAlike allLeveled allPreorder)

theorem walk_eq_allPreorder (d : Document) : d.walk = allPreorder d.fragments := by
  rw [walk, Fragment.visit_eq, List.reverse_nil, List.nil_append]

theorem walk_eq_flatMap (d : Document) : d.walk = d.fragments.flatMap Fragment.walk := by
  rw [walk_eq_allPreorder, Fragment.allPreorder_eq_flatMap]
  exact List.flatMap_congr fun f _ => f.walk_eq_preorder.symm

/-- An attribute behind a space: its name alone, or with its text in quotes. -/
def spacedAttribute : String × AttributeValue → String
  | (name, .present) => " " ++ name
  | (name, .text s) => " " ++ name ++ "=\"" ++ s ++ "\""

/-- A binding behind a space: its text in braces, after its name unless it is that name. -/
def spacedBinding (binding : String × String) : String :=
  if binding.2 = binding.1 then " \x7b" ++ binding.1 ++ "\x7d"
  else " " ++ binding.1 ++ "=\x7b" ++ binding.2 ++ "\x7d"

theorem intercalate_space (s : String) (parts : List String) :
    " ".intercalate (s :: parts) = s ++ String.join (parts.map (" " ++ ·)) := by
  induction parts generalizing s with
  | nil => simp
  | cons part parts ih =>
    rw [String.intercalate_cons_cons, ih, List.map_cons, String.join_cons]
    simp only [String.append_assoc]

theorem headline_eq (name : String) (attributes : Entries AttributeValue)
    (bindings : Entries String) : headline name attributes bindings =
      name ++ String.join (attributes.map spacedAttribute) ++
        String.join (bindings.map spacedBinding) := by
  have ha (e : String × AttributeValue) : " " ++ e.2.shown e.1 = spacedAttribute e := by
    obtain ⟨name, value⟩ := e
    cases value <;> simp [AttributeValue.shown, spacedAttribute, String.append_assoc]
  have hb (e : String × String) : " " ++ bindingShown e.1 e.2 = spacedBinding e := by
    have hs : " \x7b" = " " ++ "\x7b" := by decide
    unfold bindingShown spacedBinding
    split <;> simp only [hs, String.append_assoc]
  rw [headline, List.cons_append, intercalate_space, List.map_append, List.map_map, List.map_map,
    String.join_append, String.append_assoc]
  simp only [Function.comp_def, ha, hb]

theorem walkLevels_eq_allLeveled (d : Document) : d.walkLevels = allLeveled 0 d.fragments := by
  rw [walkLevels, Fragment.visitLevels_eq, List.reverse_nil, List.nil_append, List.flatMap_map,
    Fragment.allLeveled_eq_flatMap]

/-- The loops over a document list its fragments in the order of the recursion, as the loops over
its roots do one after the other. An outline says of them their names, attributes and bindings, in
this order and indented by their levels. Two documents have lists that look alike exactly when their
fragments are alike. -/
theorem walks_agree (d : Document) :
    d.walk = allPreorder d.fragments ∧
    d.walk = d.fragments.flatMap Fragment.walk ∧
    (∀ name, d.find name = (allPreorder d.fragments).filter (·.name == name) ∧
      d.find name = d.fragments.flatMap (·.findByName name)) ∧
    (allLeveled 0 d.fragments).map Prod.snd = allPreorder d.fragments ∧
    d.outline = "\n".intercalate
      ("scripts:" :: d.scripts.map (fun s =>
          "  script" ++ String.join (s.attributes.map spacedAttribute) ++ " (" ++
            toString (Text.printedLines false 0 s.source.toList) ++ " lines)") ++
        "fragments:" :: (allLeveled 0 d.fragments).map fun e =>
          String.ofList (List.replicate (2 * (e.1 + 1)) ' ') ++ e.2.name ++
            String.join (e.2.attributes.map spacedAttribute) ++
              String.join (e.2.bindings.map spacedBinding)) ∧
    ∀ d' : Document,
      List.Forall₂ LooksLike (allLeveled 0 d.fragments) (allLeveled 0 d'.fragments) ↔
        allAlike d.fragments d'.fragments := by
  refine ⟨d.walk_eq_allPreorder, d.walk_eq_flatMap, ?_, Fragment.map_snd_allLeveled 0 _, ?_, ?_⟩
  · intro name
    constructor
    · rw [find, walk_eq_allPreorder]
    · rw [find, walk_eq_flatMap, List.filter_flatMap]
      rfl
  · have hs : scriptLine = fun s => "  script" ++
        String.join (s.attributes.map spacedAttribute) ++ " (" ++
          toString (Text.printedLines false 0 s.source.toList) ++ " lines)" := by
      funext s
      have hp : "  script" = "  " ++ "script" := by decide
      rw [scriptLine, headline_eq, hp, List.map_nil, String.join_nil, String.append_empty]
      simp only [String.append_assoc]
    have hf (e : Nat × Fragment) : fragmentLine e.1 e.2 =
        String.ofList (List.replicate (2 * (e.1 + 1)) ' ') ++ e.2.name ++
          String.join (e.2.attributes.map spacedAttribute) ++
            String.join (e.2.bindings.map spacedBinding) := by
      rw [fragmentLine, headline_eq]
      simp only [String.append_assoc]
    rw [outline, walkLevels_eq_allLeveled]
    simp only [hs, hf]
  · intro d'
    exact Fragment.forall₂_allLeveled_iff

/-- A script, and two roots of which the first holds another fragment. -/
def sketch : Document where
  scripts := [⟨"let a = 1\nlet b = 2\n", [("lang", .text "ts")]⟩]
  fragments := [
    .mk "scene" [("name", .text "demo"), ("open", .present)] []
      [.mk "box" [] [("color", "color"), ("size", "a + b")] [] 2 3] 1 1,
    .mk "light" [] [] [] 4 1]

theorem walks_agree_sketch :
    sketch.walk.map Fragment.name = ["scene", "box", "light"] ∧
      sketch.outline = "\n".intercalate ["scripts:", "  script lang=\"ts\" (2 lines)", "fragments:",
        "  scene name=\"demo\" open", "    box \x7bcolor\x7d size=\x7ba + b\x7d", "  light"] := by
  obtain ⟨hw, -, -, -, ho, -⟩ := walks_agree sketch
  rw [hw, ho]
  decide

/-- Without levels the lists of these two forests would look alike. -/
example : ¬ allAlike [.mk "a" [] [] [.mk "b" [] [] [] 0 0, .mk "c" [] [] [] 0 0] 0 0]
    [.mk "a" [] [] [.mk "b" [] [] [.mk "c" [] [] [] 0 0] 0 0] 0 0] := by decide

end Document

end SceneMarkup
