import SceneMarkup.Document.Traversal
import SceneMarkup.Module.Basic
import SceneMarkup.Proofs.Document.Advance
import SceneMarkup.Proofs.Source.Location

/-! # Document order

A fragment is attached where it closes, and still the walk over a document meets the fragments in
the order in which they open. While a source is read, the open fragments stand in that order behind
the roots, each in front of what it holds so far; a closing tag leaves that order as it is.
-/

namespace SceneMarkup

/-- The opening tag of a fragment begins at an offset of the source, whose line and column are
those of the fragment. -/
structure Fragment.OpensAt (source : List Char) (offset : Nat) (f : Fragment) : Prop where
  tag : ∃ items rest, Head f.name.toList items (source.drop offset) rest ∧
    f.attributes = Item.attributes items ∧ f.bindings = Item.bindings items
  line : f.line = 1 + (source.take offset).count '\n'
  column : f.column = offset - lineStart (source.take offset) + 1

/-- The opening tag of a script begins at an offset of the source, and its body is behind it. -/
def Script.OpensAt (source : List Char) (offset : Nat) (script : Script) : Prop :=
  ∃ items body rest,
    Head Reading.scriptTag.toList items (source.drop offset)
      ('>' :: (body ++ (Reading.scriptTerminator.toList ++ rest))) ∧
    IsScriptBody Reading.scriptTerminator.toList body ∧
    script = ⟨.ofList body, Item.attributes items⟩

/-- Each of some things is found at an offset before the bound, further on than those before it. -/
def InOrder {α : Type} (At : Nat → α → Prop) (bound : Nat) (xs : List α) : Prop :=
  ∃ offsets : List Nat, offsets.Pairwise (· < ·) ∧ (∀ o ∈ offsets, o < bound) ∧
    List.Forall₂ At offsets xs

section

variable {α : Type} {At : Nat → α → Prop} {bound bound' offset : Nat} {xs : List α} {x : α}

theorem inOrder_nil (At : Nat → α → Prop) (bound : Nat) : InOrder At bound [] :=
  ⟨[], .nil, by simp, .nil⟩

theorem InOrder.mono (h : InOrder At bound xs) (hb : bound ≤ bound') : InOrder At bound' xs := by
  obtain ⟨offsets, hs, hl, hx⟩ := h
  exact ⟨offsets, hs, fun o ho => Nat.lt_of_lt_of_le (hl o ho) hb, hx⟩

theorem InOrder.concat (h : InOrder At bound xs) (hx : At offset x) (hb : bound ≤ offset)
    (hb' : offset < bound') : InOrder At bound' (xs ++ [x]) := by
  obtain ⟨offsets, hs, hl, hxs⟩ := h
  have hlt : ∀ o ∈ offsets, o < offset := fun o ho => Nat.lt_of_lt_of_le (hl o ho) hb
  refine ⟨offsets ++ [offset], ?_, ?_, List.rel_append hxs (.cons hx .nil)⟩
  · refine List.pairwise_append.mpr ⟨hs, List.pairwise_singleton .., fun o ho o' ho' => ?_⟩
    exact List.mem_singleton.mp ho' ▸ hlt o ho
  · intro o ho
    rcases List.mem_append.mp ho with ho | ho
    · exact (hlt o ho).trans hb'
    · exact List.mem_singleton.mp ho ▸ hb'

end

namespace Fragment

def alone (f : Fragment) : Fragment := .mk f.name f.attributes f.bindings [] f.line f.column

theorem opensAt_alone {source : List Char} {offset : Nat} {f : Fragment} :
    f.alone.OpensAt source offset ↔ f.OpensAt source offset :=
  ⟨fun h => ⟨h.tag, h.line, h.column⟩, fun h => ⟨h.tag, h.line, h.column⟩⟩

theorem visit_append_visited (visited more fs : List Fragment) :
    visit (visited ++ more) fs = more.reverse ++ visit visited fs := by
  fun_induction visit visited fs with
  | case1 => simp [visit]
  | case2 visited f pending ih => rw [visit, ← List.cons_append, ih]

theorem visit_append (visited fs gs : List Fragment) :
    visit visited (fs ++ gs) = visit visited fs ++ visit [] gs := by
  fun_induction visit visited fs with
  | case1 visited => exact visit_append_visited [] visited gs
  | case2 visited f pending ih => rw [List.cons_append, visit, ← List.append_assoc, ih]

theorem visit_singleton (f : Fragment) : visit [] [f] = f :: visit [] f.children := by
  rw [visit, List.append_nil]
  exact visit_append_visited [] [f] f.children

theorem length_visit (visited fs : List Fragment) :
    (visit visited fs).length = visited.length + sizeAll fs := by
  fun_induction visit visited fs with
  | case1 => simp [sizeAll]
  | case2 visited f pending ih =>
    rw [ih, sizeAll_append, sizeAll, size_eq, List.length_cons]
    omega

end Fragment

namespace Reading

open Fragment Scanner

/-- The fragments that have been opened, in their order. -/
def opened (r : Reading) : List Fragment :=
  (visit [] (r.roots.reverse ++ r.stack.reverse.map OpenFragment.close)).map alone

variable {r r' : Reading} {source : List Char} {f : Fragment} {top : OpenFragment}
  {outer : List OpenFragment} {s : Scanner}

theorem opened_gain (r : Reading) (scripts : List Script) (fragments : List Fragment)
    (s : Scanner) :
    (r.gain scripts fragments s).opened = r.opened ++ (visit [] fragments).map alone := by
  obtain ⟨_, _, _, _ | ⟨top, outer⟩, _⟩ := r <;>
    simp [opened, gain, visit_append, visit_singleton, OpenFragment.close, alone, children, name,
      attributes, bindings, line, column]

theorem opened_gain_nil (r : Reading) (scripts : List Script) (s : Scanner) :
    (r.gain scripts [] s).opened = r.opened := by
  rw [opened_gain, visit, List.reverse_nil, List.map_nil, List.append_nil]

theorem opened_attach (r : Reading) (f : Fragment) :
    (r.attach f).opened = r.opened ++ (visit [] [f]).map alone := by
  rw [← opened_gain r [] [f] r.scanner]
  obtain ⟨_, _, _, _ | ⟨_, _⟩, _⟩ := r <;> rfl

theorem opened_push (r : Reading) (s : Scanner) (h : top.children = []) :
    (r.push top s).opened = r.opened ++ [top.close.alone] := by
  simp [opened, push, visit_append, visit_singleton, OpenFragment.close, h, children, visit]

theorem opened_pop (r : Reading) (s : Scanner) : (r.pop s).opened = r.opened := by
  unfold pop
  split
  · rfl
  · next top outer h =>
    refine (opened_attach { r with stack := outer } top.close).trans ?_
    simp [opened, h, visit_append]

theorem closed_gain (r : Reading) (scripts : List Script) (fragments : List Fragment)
    (s : Scanner) (h : r.closed + r.stack.length = r.opened.length) :
    (r.gain scripts fragments s).closed + (r.gain scripts fragments s).stack.length =
      (r.gain scripts fragments s).opened.length := by
  have hst : (r.gain scripts fragments s).stack.length = r.stack.length := by
    obtain ⟨_, _, _, _ | ⟨_, _⟩, _⟩ := r <;> rfl
  have hc : (r.gain scripts fragments s).closed = r.closed + sizeAll fragments := rfl
  rw [opened_gain, List.length_append, List.length_map, length_visit, List.length_nil, hst, hc]
  omega

theorem pop_of_stack (hst : r.stack = top :: outer) (s : Scanner) :
    (r.pop s).scripts = r.scripts ∧ (r.pop s).closed = r.closed + 1 ∧
      (r.pop s).stack.length = outer.length := by
  obtain ⟨_, _, _, _, _⟩ := r
  subst hst
  cases outer <;> exact ⟨rfl, rfl, rfl⟩

/-- A reading of a source that has all of it in order that it has passed. -/
structure Ordered (source : List Char) (r : Reading) : Prop where
  passes : ∃ before, (Scanner.ofSource source).Passes before r.scanner
  fragments : InOrder (Fragment.OpensAt source) r.scanner.here.offset r.opened
  scripts : InOrder (Script.OpensAt source) r.scanner.here.offset r.scripts.reverse
  closed : r.closed + r.stack.length = r.opened.length

theorem ordered_ofSource (source : List Char) : (ofSource source).Ordered source where
  passes := ⟨[], rfl, rfl⟩
  fragments := by simpa [opened, ofSource, visit] using inOrder_nil ..
  scripts := inOrder_nil ..
  closed := by simp [opened, ofSource, visit]

theorem offset_of_passes {text : List Char} {s' : Scanner} (h : s.Passes text s') :
    s'.here.offset = s.here.offset + text.length := by
  rw [h.here, (Location.pass_eq s.here text).1]

theorem take_drop_of_passes {before : List Char}
    (h : (Scanner.ofSource source).Passes before s) :
    source.take s.here.offset = before ∧ source.drop s.here.offset = s.rest := by
  have hr : source = before ++ s.rest := h.rest
  have ho : s.here.offset = before.length := h.here ▸ Location.offset_start_pass before
  rw [ho, hr]
  exact ⟨List.take_left, List.drop_left⟩

theorem opensAt_of_head {before name cs : List Char} {items : List Item}
    (hs : (Scanner.ofSource source).Passes before s) (hh : Head name items s.rest cs) :
    (Fragment.mk (.ofList name) (Item.attributes items) (Item.bindings items) []
      s.here.line s.here.column).OpensAt source s.here.offset := by
  obtain ⟨ht, hd⟩ := take_drop_of_passes hs
  have hl : s.here = Location.start.pass before := hs.here
  refine ⟨⟨items, cs, ?_, rfl, rfl⟩, ?_, ?_⟩
  · rw [hd, Fragment.name, String.toList_ofList]
    exact hh
  · rw [ht, line, hl, Location.line_start_pass]
  · rw [ht, column, hl, Location.column_start_pass, Location.offset_start_pass]

/-- Every step leaves a reading in order. -/
theorem Ordered.step (h : r.Ordered source) (hr : r.step = .ok (some r')) : r'.Ordered source := by
  obtain ⟨w, s, hw, hp, hc, ht, n, hn, hs'⟩ := takes_of_step hr
  obtain ⟨before, hb⟩ := h.passes
  have hs := hb.trans hp
  -- The tag begins behind all that has been passed, and the scanner goes on behind its `<`.
  have hle : r.scanner.here.offset ≤ s.here.offset := by
    rw [offset_of_passes hp]
    exact Nat.le_add_right ..
  have hlt : s.here.offset < r'.scanner.here.offset := by
    obtain ⟨rest, hc⟩ := current?_eq_some_iff.mp hc
    rw [hs', offset_of_passes (s.passes_take n), hc, List.length_take, List.length_cons]
    omega
  have hpass : ∃ before, (Scanner.ofSource source).Passes before r'.scanner :=
    ⟨_, hs' ▸ hs.trans (s.passes_take n)⟩
  have hf := h.fragments.mono (hle.trans hlt.le)
  have hsc := h.scripts.mono (hle.trans hlt.le)
  have hcl := h.closed
  cases ht with
  | comment =>
    refine ⟨hpass, ?_, hsc, closed_gain r _ _ _ hcl⟩
    rwa [opened_gain_nil]
  | @script items body s' hh hi =>
    refine ⟨hpass, ?_, ?_, closed_gain r _ _ _ hcl⟩
    · rwa [opened_gain_nil]
    · refine (List.reverse_cons ▸ h.scripts.concat ⟨items, body, s'.rest, ?_, hi, rfl⟩ hle hlt :)
      rwa [(take_drop_of_passes hs).2]
  | leaf hh =>
    refine ⟨hpass, ?_, hsc, closed_gain r _ _ _ hcl⟩
    rw [opened_gain, visit_singleton, children, visit]
    exact h.fragments.concat (opensAt_of_head hs hh) hle hlt
  | opened hh hne =>
    refine ⟨hpass, ?_, hsc, ?_⟩
    · rw [opened_push r _ rfl]
      exact h.fragments.concat (opensAt_of_head hs hh) hle hlt
    · rw [opened_push r _ rfl, push, List.length_cons, List.length_append, ← hcl]
      rfl
  | closed hst hr =>
    obtain ⟨hs, hc, hl⟩ := pop_of_stack hst _
    refine ⟨hpass, ?_, ?_, ?_⟩
    · rwa [opened_pop]
    · rwa [hs]
    · rw [opened_pop, ← hcl, hst, hc, hl, List.length_cons]
      omega

theorem ordered_of_run (h : r.Ordered source) (hr : r.run = .ok r') :
    r'.Ordered source ∧ r'.stack = [] := by
  fun_induction run r with
  | case1 => cases hr
  | case2 r hs => exact Except.ok.inj hr ▸ ⟨h, (step_eq_none_iff.mp hs).2⟩
  | case3 r r₁ hs ih => exact ih (h.step hs) hr

theorem Ordered.offset_le (h : r.Ordered source) : r.scanner.here.offset ≤ source.length := by
  obtain ⟨before, hb⟩ := h.passes
  have hs : source = before ++ r.scanner.rest := hb.rest
  have ho : r.scanner.here.offset = before.length :=
    hb.here ▸ Location.offset_start_pass before
  rw [hs, ho, List.length_append]
  exact Nat.le_add_right ..

end Reading

namespace Document

variable {source : String} {path : Option String} {d : Document}

/-- The walk over a document meets its fragments in the order of their opening tags, the scripts
stand in the order of theirs, and the record of the reading counts both. -/
theorem parse_order (h : parse source path = .ok d) :
    InOrder (Fragment.OpensAt source.toList) source.length d.walk ∧
    InOrder (Script.OpensAt source.toList) source.length d.scripts ∧
    ∃ record, parseLogged source path = (.ok d, [record]) ∧
      record.message = "Parsed document" ∧
      record.context.get? "fragments" = some (.integer d.walk.length) ∧
      record.context.get? "scripts" = some (.integer d.scripts.length) := by
  obtain ⟨r, hr, rfl⟩ := parse_eq_ok_iff.mp h
  obtain ⟨ho, hst⟩ := Reading.ordered_of_run (Reading.ordered_ofSource source.toList) hr
  have hw : r.opened = r.document.walk.map Fragment.alone := by
    simp [Reading.opened, hst, walk, Reading.document]
  refine ⟨?_, ho.scripts.mono ho.offset_le, readRecord path r, ?_, rfl, ?_, ?_⟩
  · obtain ⟨offsets, hs, hl, hf⟩ := ho.fragments.mono ho.offset_le
    rw [hw, List.forall₂_map_right_iff] at hf
    exact ⟨offsets, hs, hl, hf.imp fun _ _ => Fragment.opensAt_alone.mp⟩
  · rw [parseLogged, read_eq_ok_iff.mpr hr]
  · have hc : r.closed = r.document.walk.length := by
      simpa [hst, hw] using ho.closed
    exact hc ▸ rfl
  · rw [Reading.document, List.length_reverse]
    rfl

/-- A fragment inside another one is complete before it, and comes behind it all the same. -/
theorem parse_order_nested :
    parse "<a>\n<b/></a><script>x</script>" none =
      .ok ⟨[⟨"x", []⟩], [.mk "a" [] [] [.mk "b" [] [] [] 2 1] 1 1]⟩ ∧
    InOrder (Fragment.OpensAt "<a>\n<b/></a><script>x</script>".toList) 30
      [.mk "a" [] [] [.mk "b" [] [] [] 2 1] 1 1, .mk "b" [] [] [] 2 1] ∧
    ∃ record, (parseLogged "<a>\n<b/></a><script>x</script>" none).2 = [record] ∧
      record.context.get? "fragments" = some (.integer 2) := by
  have h : parse "<a>\n<b/></a><script>x</script>" none =
      .ok ⟨[⟨"x", []⟩], [.mk "a" [] [] [.mk "b" [] [] [] 2 1] 1 1]⟩ := by with_unfolding_all rfl
  have hw : walk ⟨[⟨"x", []⟩], [.mk "a" [] [] [.mk "b" [] [] [] 2 1] 1 1]⟩ =
      [.mk "a" [] [] [.mk "b" [] [] [] 2 1] 1 1, .mk "b" [] [] [] 2 1] := by
    simp [walk, Fragment.visit, Fragment.children]
  obtain ⟨hf, -, record, hr, -, hc, -⟩ := parse_order h
  rw [hw] at hf hc
  exact ⟨h, hf, record, congrArg Prod.snd hr, hc⟩

end Document

end SceneMarkup
