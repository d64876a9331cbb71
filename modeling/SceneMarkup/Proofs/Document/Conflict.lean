import SceneMarkup.Proofs.Document.Acceptance
import SceneMarkup.Proofs.Source.Location

/-! # Conflicting items

A reading takes a tag in with all that its items give, unless one of them conflicts with those
before it: then the source is refused for the first such item, at the item's name. What has been
read before the tag makes no difference.
-/

namespace SceneMarkup

/-- The report of an item that conflicts and whose name stands behind `front`. -/
structure Diagnosis.Refuses (e : Diagnosis) (item : Item) (front : List Char) : Prop where
  reason : e.reason = if item.binding?.isSome then .duplicateBinding else .duplicateAttribute
  message : e.message = (Tag.twice item).message
  offset : e.offset = front.length
  line : e.line = (1 + front.count '\n' : Nat)
  column : e.column = (front.length - lineStart front + 1 : Nat)

namespace Reading

/-- A reading takes in a tag of these items in whichever way the source goes on behind them: as a
leaf, as a script without its bindings, or as a fragment, which is open until its closing tag. -/
structure Admits (r : Reading) (name : List Char) (items : List Item) (rest : List Char) :
    Prop where
  leaf : ∀ more, rest = '/' :: '>' :: more → ∃ s line column, s.rest = more ∧
    r.step = .ok (some (r.gain []
      [.mk (.ofList name) (Item.attributes items) (Item.bindings items) [] line column] s))
  script : ∀ body more, String.ofList name = scriptTag →
    rest = '>' :: (body ++ (scriptTerminator.toList ++ more)) →
    IsScriptBody scriptTerminator.toList body → ∃ s, s.rest = more ∧
      r.step = .ok (some (r.gain [⟨.ofList body, Item.attributes items⟩] [] s))
  opened : ∀ more, String.ofList name ≠ scriptTag → rest = '>' :: more → more ≠ [] →
    ∃ s place, s.rest = more ∧ r.step = .ok (some (r.push
      ⟨.ofList name, Item.attributes items, Item.bindings items, place, []⟩ s))
  closed : ∀ w content more scripts children, String.ofList name ≠ scriptTag →
    rest = '>' :: (w ++ content) → Blanks w →
    Content content ('<' :: '/' :: (name ++ '>' :: more)) scripts children →
    ∃ s children' line column, s.rest = more ∧
      children'.map Fragment.unplaced = children.map Fragment.unplaced ∧
      r.Reaches (r.gain scripts [.mk (.ofList name) (Item.attributes items) (Item.bindings items)
        children' line column] s)

end Reading

variable {item : Item} {items before after : List Item} {name cs ds w rest more : List Char}
  {s : Scanner} {tag : Tag} {r : Reading}

theorem Items.exists_append (h : Items (before ++ after) cs rest) :
    ∃ ds, Items before cs ds ∧ Items after ds rest := by
  induction before generalizing cs with
  | nil => exact ⟨cs, .nil, h⟩
  | cons item before ih =>
    cases h with
    | cons hi hw his =>
      obtain ⟨ds, hb, ha⟩ := ih his
      exact ⟨ds, .cons hi hw hb, ha⟩

namespace Tag

open Scanner

/-- A tag takes consistent items up to the first one that conflicts, and stops at its name. -/
theorem readItems_of_conflict (hh : tag.Holds before) (hi : Items items s.rest ds)
    (hs : item.Spelled ds (w ++ rest)) (hw : Blanks w) (hr : Clear rest)
    (hc : Item.Consistent (before ++ items)) (hx : item.Conflicts (before ++ items)) :
    ∃ text s', s.Passes text s' ∧ item.NameAt ds s'.rest ∧
      tag.readItems s = (twice item).stop s'.here := by
  generalize he : s.rest = cs at hi
  -- The induction is on the items that are taken; the tag holds them when the next one is read.
  induction hi generalizing tag s before with
  | nil =>
    obtain ⟨text, s', _, hp, hn, -, h⟩ := step_of_spelled tag (he ▸ hs) hw hr
    refine ⟨text, s', hp, he ▸ hn, ?_⟩
    rw [readItems_eq, h, give_of_conflicts hh (List.append_nil before ▸ hx)]
    rfl
  | @cons first items _ w' cs' _ hf hw' his ih =>
    have hcl : Clear cs' := his.clear hs.clear
    have hn : ¬ first.Conflicts before := hc before first items rfl
    obtain ⟨_, s₁, s₂, -, -, hr₂, h⟩ := step_of_spelled tag (he ▸ hf) hw' hcl
    rw [give_of_not_conflicts hh hn] at h
    have ho := onward_step tag s
    rw [h] at ho
    obtain ⟨text, hp⟩ := ho.exists_passes
    obtain ⟨text', s', hp', hn', h'⟩ :=
      ih (hh.grown hn) hs (by simpa using hc) (by simpa using hx) hr₂
    refine ⟨_, s', hp.trans hp', hn', ?_⟩
    rw [readItems_eq, h]
    exact h'

end Tag

namespace Reading

open Scanner

theorem Admits.of_head (hs : r.scanner.rest = w ++ cs) (hw : Blanks w)
    (hh : Head name items cs rest) : r.Admits name items rest where
  leaf := by
    rintro more rfl
    obtain ⟨s, line, column, h⟩ := step_of_leaf hh hw hs
    exact ⟨s, line, column, h⟩
  script := by
    rintro body more hn rfl hb
    obtain rfl : name = scriptTag.toList := by simp [← hn]
    exact step_of_script hh hb hw hs
  opened := by
    rintro more hn rfl hne
    exact step_of_opened hh hn hne hw hs
  closed := by
    rintro w' content more scripts children hn rfl hw' hc
    have hnode : Node cs more scripts [.mk (.ofList name) (Item.attributes items)
        (Item.bindings items) children 0 0] := .element hh hn hw' hc
    obtain ⟨fs, s, hf, hr, h⟩ := hnode.reaches r hw hs
    obtain ⟨children', line, column, rfl, hc'⟩ := Fragment.map_unplaced_eq_singleton hf
    exact ⟨s, children', line, column, hr, hc', h⟩

/-- A reading stops at the name of the first item that conflicts. -/
theorem run_of_conflict (hs : r.scanner.rest = w ++ cs) (hw : Blanks w)
    (hh : Head name before cs ds) (hi : Items (item :: after) ds rest) (hr : Clear rest)
    (hx : item.Conflicts before) :
    ∃ text s', r.scanner.Passes text s' ∧ item.NameAt ds s'.rest ∧
      r.run = (Tag.twice item).stop s'.here := by
  obtain ⟨cs', hh, hb, hc⟩ := hh.exists_items
  cases hi with
  | cons hsp hw' ha =>
    have hcl := ha.clear hr
    obtain ⟨_, hd⟩ := hh.cons
    obtain ⟨s₁, hp₁, h₁, hst⟩ := step_eq_readTag (hd ▸ hs) hw
    obtain ⟨_, s₂, hp₂, h₂, ht⟩ := r.readTag_of_name (h₁ ▸ hd ▸ hh) (hb.clear hsp.clear).1
    obtain ⟨_, s', hp₃, hn, hx⟩ := Tag.readItems_of_conflict (Tag.holds_ofName (.ofList name))
      (h₂ ▸ hb) hsp hw' hcl hc hx
    refine ⟨_, s', (hp₁.trans hp₂).trans hp₃, hn, ?_⟩
    rw [run_eq, hst, ht, hx]
    rfl

end Reading

namespace Document

open Scanner Reading

variable {source : String} {ending : Tag.Ending}

/-- Wherever a tag stands in a source, it is taken in when none of its items conflicts with those
before it, and else the source is refused for the first that does. The names that the items bind
stand in the order in which they first occur, each with its last text. -/
theorem admits_or_refuses (hr : (Reading.ofSource source.toList).Reaches r)
    (hs : r.scanner.rest = w ++ cs) (hw : Blanks w) (hh : Head name [] cs ds)
    (hi : Items items ds rest) (he : ending.Precedes rest more) (path : Option String) :
    (Item.Consistent items → r.Admits name items rest) ∧
    (¬ Item.Consistent items → ∃ before item after front cs' rest' e,
      items = before ++ item :: after ∧ Item.Consistent before ∧ item.Conflicts before ∧
        Head name before cs cs' ∧ item.NameAt cs' rest' ∧ source.toList = front ++ rest' ∧
        parse source path = .error e ∧ e.Refuses item front) ∧
    Entries.keys (Item.bindings items) =
      (Entries.keys (items.filterMap Item.binding?)).eraseDups ∧
    ∀ e, e ∈ Item.bindings items ↔ ∃ front back,
      items.filterMap Item.binding? = front ++ e :: back ∧ e.1 ∉ Entries.keys back := by
  refine ⟨fun hc => .of_head hs hw (hh.of_items hi hc), fun hc => ?_,
    Entries.keys_ofList _, fun _ => Entries.mem_ofList_iff⟩
  obtain ⟨before, item, after, rfl, hb, hx⟩ := Item.exists_first_conflict hc
  obtain ⟨cs', hi, ha⟩ := hi.exists_append
  have hh' := hh.of_items hi hb
  obtain ⟨text, s, hp, hn, hrun⟩ := run_of_conflict hs hw hh' ha he.clear hx
  obtain ⟨text', hp'⟩ := hr.exists_passes
  have hp := hp'.trans hp
  have hplace : s.here = Location.start.pass (text' ++ text) := hp.here
  refine ⟨before, item, after, text' ++ text, cs', s.rest, _, rfl, hb, hx, hh', hn, hp.rest,
    parse_eq_error_iff.mpr ⟨_, (run_eq_of_reaches hr).trans hrun, rfl⟩, ?_⟩
  constructor
  · cases item <;> rfl
  · rfl
  · rw [← Location.offset_start_pass, ← hplace]
    rfl
  · rw [← Location.line_start_pass, ← hplace]
    rfl
  · rw [← Location.column_start_pass, ← hplace]
    rfl

/-- A binding replaces a shorthand of its name, and then the name may not be given again. -/
theorem admits_or_refuses_replaced : ∃ before item after front e,
    [Item.shorthand "x", .bound "x" "y", .shorthand "x"] = before ++ item :: after ∧
      item.Conflicts before ∧ front.length = 14 ∧
      parse "<a \x7bx\x7d x=\x7by\x7d \x7bx\x7d/>" none = .error e ∧ e.Refuses item front := by
  have hw : Blanks [' '] ∧ Blanks [] := by simp [Blanks, Text.isBlank]
  have hx : Token.IsIdentifier ['x'] := Token.isIdentifier_cons.mpr ⟨by decide, .nil⟩
  have hy : IsBinding ['y'] := Quoting.closing_of_plain rfl (by simp [isQuote])
  let cs := ['{', 'x', '}', ' ', 'x', '=', '{', 'y', '}', ' ', '{', 'x', '}', '/', '>']
  have ha : Longest Token.IsTagName ['a'] (' ' :: cs) := by
    refine Token.IsTagName.longest ⟨'a', [], rfl, by decide, by simp⟩ ?_
    rintro _ _ ⟨⟩
    decide
  have hi : Items [.shorthand (.ofList ['x']), .bound (.ofList ['x']) (.ofList ['y']),
      .shorthand (.ofList ['x'])] cs ['/', '>'] :=
    .cons (w := [' ']) (.shorthand hw.2 hx hw.2) hw.1 (.cons (w := [' ']) (.bound hx hy) hw.1
      (.cons (w := []) (.shorthand hw.2 hx hw.2) hw.2 .nil))
  have hc : ¬ Item.Consistent [.shorthand (.ofList ['x']),
      .bound (.ofList ['x']) (.ofList ['y']), .shorthand (.ofList ['x'])] :=
    fun h => h [_, _] _ [] rfl (by decide : Item.binders "x" [.shorthand "x", .bound "x" "y"] ≠ [])
  have hs : "<a \x7bx\x7d x=\x7by\x7d \x7bx\x7d/>".toList = '<' :: 'a' :: ' ' :: cs := by decide
  have he : Tag.Ending.selfClosed.Precedes ['/', '>'] [] := rfl
  obtain ⟨before, item, after, front, _, _, e, hl, -, hx, -, -, -, hp, hr⟩ :=
    (admits_or_refuses (r := .ofSource "<a \x7bx\x7d x=\x7by\x7d \x7bx\x7d/>".toList) (w := [])
      .refl hs hw.2 (.mk hw.2 ha hw.1 .nil Item.consistent_nil) hi he none).2.1 hc
  have h : parse "<a \x7bx\x7d x=\x7by\x7d \x7bx\x7d/>" none = .error (.ofFailure
      "<a \x7bx\x7d x=\x7by\x7d \x7bx\x7d/>".toList none
      ⟨.bindingTwice "x", 14, 1, 15, Nat.one_pos, Nat.succ_pos 14⟩) := by with_unfolding_all rfl
  refine ⟨before, item, after, front, e, hl, hx, ?_, hp, hr⟩
  obtain rfl := Except.error.inj (h.symm.trans hp)
  exact Int.ofNat.inj hr.offset.symm

end Document

end SceneMarkup
