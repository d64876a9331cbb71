import SceneMarkup.Proofs.Document.Advance

/-! # Acceptance

A reading accepts exactly the sources of the grammar, and holds the document that the grammar
derives. Soundness reads a run backwards: what is left of the source finishes the fragments that
are open. Completeness follows a derivation and takes in what it holds.
-/

namespace SceneMarkup

namespace Reading

/-- What is left of the source finishes the reading with this document: content up to the closing
tag of each open fragment, innermost first, and then content up to the end. -/
inductive Finishes : Reading → Document → Prop where
  | done {r : Reading} {w cs : List Char} {scripts : List Script} {fragments : List Fragment}
      {s : Scanner} :
      r.stack = [] → r.scanner.rest = w ++ cs → Blanks w → Content cs [] scripts fragments →
      Finishes r (r.gain scripts fragments s).document
  | close {r : Reading} {top : OpenFragment} {outer : List OpenFragment} {w cs : List Char}
      {scripts : List Script} {children : List Fragment} {s s' : Scanner} {d : Document} :
      r.stack = top :: outer → r.scanner.rest = w ++ cs → Blanks w →
      Content cs ('<' :: '/' :: (top.name.toList ++ '>' :: s.rest)) scripts children →
      Finishes ((r.gain scripts children s').pop s) d → Finishes r d

/-- Reading on step by step. -/
inductive Reaches : Reading → Reading → Prop where
  | refl {r : Reading} : Reaches r r
  | step {r r' r'' : Reading} : r.step = .ok (some r') → Reaches r' r'' → Reaches r r''

variable {r r' r'' : Reading} {d : Document} {cs w rest : List Char} {s : Scanner}
  {scripts : List Script} {fragments : List Fragment}

theorem Reaches.trans (h : r.Reaches r') (h' : r'.Reaches r'') : r.Reaches r'' := by
  induction h with
  | refl => exact h'
  | step hs _ ih => exact .step hs (ih h')

theorem run_eq_of_reaches (h : r.Reaches r') : r.run = r'.run := by
  induction h with
  | refl => rfl
  | step hs _ ih =>
    rw [run_eq, hs]
    exact ih

theorem Reaches.exists_passes (h : r.Reaches r') :
    ∃ text, r.scanner.Passes text r'.scanner := by
  induction h with
  | refl => exact ⟨[], rfl, rfl⟩
  | step hs _ ih =>
    obtain ⟨_, _, _, hp₁, -, -, ha⟩ := takes_of_step hs
    obtain ⟨_, hp₂⟩ := ha.exists_passes
    obtain ⟨_, hp₃⟩ := ih
    exact ⟨_, (hp₁.trans hp₂).trans hp₃⟩

/-! ### Soundness -/

theorem Finishes.of_node (hr : r.scanner.rest = w ++ cs) (hw : Blanks w)
    (hn : Node cs s.rest scripts fragments) (h : (r.gain scripts fragments s).Finishes d) :
    r.Finishes d := by
  cases hst : r.stack with
  | nil =>
    generalize hg : r.gain scripts fragments s = r' at h
    have hst' : r'.stack = [] := by rw [← hg, gain, hst]
    cases h with
    | done hs hr' hw' hc =>
      subst hg
      rw [gain_gain]
      exact .done hst hr hw (.cons (hr' ▸ hn) hw' hc)
    | close hs => simp [hst'] at hs
  | cons top outer =>
    generalize hg : r.gain scripts fragments s = r' at h
    have hst' : r'.stack = { top with children := fragments.reverse ++ top.children } :: outer := by
      rw [← hg, gain, hst]
    cases h with
    | done hs => simp [hst'] at hs
    | close hs hr' hw' hc h =>
      subst hg
      obtain ⟨rfl, rfl⟩ := List.cons.inj (hst'.symm.trans hs)
      rw [gain_gain] at h
      exact .close hst hr hw (.cons (hr' ▸ hn) hw' hc) h

theorem Finishes.of_advances (hr : r.scanner.rest = w ++ cs) (hw : Blanks w)
    (ha : r.Advances cs r') (h : r'.Finishes d) : r.Finishes d := by
  cases ha with
  | node hn => exact h.of_node hr hw hn
  | @opened name items _ place s hh hn =>
    -- What finishes the inner reading closes this fragment, so all of it is one node of the outer.
    generalize hp : r.push ⟨.ofList name, Item.attributes items, Item.bindings items, place, []⟩ s =
      r' at h
    cases h with
    | done hs => simp [← hp, push] at hs
    | close hs hr' hw' hc h =>
      subst hp
      obtain ⟨rfl, rfl⟩ := List.cons.inj hs
      rw [pop_gain_push] at h
      rw [String.toList_ofList] at hc
      exact h.of_node hr hw (.element (hr' ▸ hh) hn hw' hc)
  | closed hst =>
    have hp : r = r.gain [] [] r.scanner := by rw [gain_nil]
    rw [hp] at h
    exact .close hst hr hw .nil h

theorem finishes_of_run (h : r.run = .ok r') : r.Finishes r'.document := by
  fun_induction run r with
  | case1 => cases h
  | case2 r hs =>
    obtain rfl := Except.ok.inj h
    obtain ⟨hr, hst⟩ := step_eq_none_iff.mp hs
    obtain ⟨w, hw, hp, -⟩ := r.scanner.passes_skipBlanks
    have := Finishes.done (s := r.scanner) hst (hr ▸ hp.rest) hw .nil
    rwa [gain_nil] at this
  | case3 r r₁ hs ih =>
    obtain ⟨w, cs, hw, hr, ha⟩ := advances_of_step hs
    exact (ih h).of_advances hr hw ha

theorem derives_of_run {source : List Char} (h : (ofSource source).run = .ok r) :
    Derives source r.document := by
  have hf := finishes_of_run h
  generalize hs : ofSource source = r₀, r.document = d at hf
  cases hf with
  | done _ hr hw hc =>
    subst hs
    refine ⟨_, _, hr, hw, ?_⟩
    simpa [document, gain, ofSource] using hc
  | close hst =>
    subst hs
    cases hst

/-! ### Completeness -/

end Reading

open Reading

theorem Content.append_ne_nil {w cs rest : List Char} {scripts : List Script}
    {fragments : List Fragment} (h : Content cs ('<' :: rest) scripts fragments) :
    w ++ cs ≠ [] := by
  rcases h.head with rfl | ⟨ds, rfl⟩ <;> simp

mutual

theorem Node.reaches {cs rest : List Char} {scripts : List Script} {fragments : List Fragment} :
    Node cs rest scripts fragments → ∀ (r : Reading) {w : List Char}, Blanks w →
      r.scanner.rest = w ++ cs → ∃ fragments' s, fragments'.map Fragment.unplaced =
        fragments.map Fragment.unplaced ∧ s.rest = rest ∧
        r.Reaches (r.gain scripts fragments' s)
  | .comment hb, r, w, hw, hr => by
    obtain ⟨s, hs, h⟩ := step_of_comment hb hw hr
    exact ⟨[], s, rfl, hs, .step h .refl⟩
  | .script hh hb, r, w, hw, hr => by
    obtain ⟨s, hs, h⟩ := step_of_script hh hb hw hr
    exact ⟨[], s, rfl, hs, .step h .refl⟩
  | .leaf hh, r, w, hw, hr => by
    obtain ⟨s, line, column, hs, h⟩ := step_of_leaf hh hw hr
    exact ⟨_, s, by simp, hs, .step h .refl⟩
  | @Node.element name items _ _ _ _ _ _ _ _ hh hn hw' hc, r, w, hw, hr => by
    obtain ⟨s, place, hs, h⟩ := step_of_opened hh hn hc.append_ne_nil hw hr
    -- The inner nodes are taken by the open fragment, which the closing tag turns into one node.
    obtain ⟨children', s', w', hf, hw', hs', h'⟩ := hc.reaches (r.push _ s) hw' hs
    let top : OpenFragment := ⟨.ofList name, Item.attributes items, Item.bindings items, place, []⟩
    obtain ⟨s'', hs'', h''⟩ := step_of_closed (r := (r.push top s).gain _ children' s') rfl
      (by simpa [top] using hh.isTagName) hw' (by simpa [top] using hs')
    rw [pop_gain_push] at h''
    exact ⟨_, s'', by simp [hf], hs'', .step h (h'.trans (.step h'' .refl))⟩

theorem Content.reaches {cs rest : List Char} {scripts : List Script} {fragments : List Fragment} :
    Content cs rest scripts fragments → ∀ (r : Reading) {w : List Char}, Blanks w →
      r.scanner.rest = w ++ cs → ∃ fragments' s w', fragments'.map Fragment.unplaced =
        fragments.map Fragment.unplaced ∧ Blanks w' ∧ s.rest = w' ++ rest ∧
        r.Reaches (r.gain scripts fragments' s)
  | .nil, r, w, hw, hr => ⟨[], r.scanner, w, rfl, hw, hr, by rw [gain_nil]; exact .refl⟩
  | .cons hn hw' hc, r, w, hw, hr => by
    obtain ⟨fs, s, hf, hs, h⟩ := hn.reaches r hw hr
    obtain ⟨fs', s', w', hf', hw', hs', h'⟩ := hc.reaches (r.gain _ fs s) hw' hs
    rw [gain_gain] at h'
    exact ⟨fs ++ fs', s', w', by simp [hf, hf'], hw', hs', h.trans h'⟩

end

theorem Reading.run_of_derives {source : List Char} {d : Document} (h : Derives source d) :
    ∃ r, (ofSource source).run = .ok r ∧ r.document.unplaced = d.unplaced := by
  obtain ⟨w, cs, rfl, hw, hc⟩ := h
  obtain ⟨fs, s, w', hf, hw', hs, h⟩ := hc.reaches (ofSource (w ++ cs)) hw rfl
  refine ⟨(ofSource (w ++ cs)).gain d.scripts fs s, (run_eq_of_reaches h).trans ?_, ?_⟩
  · have hs := Scanner.rest_skipBlanks hs hw' (fun _ _ h => by cases h)
    rw [run_eq, step_eq_none_iff.mpr ⟨hs, rfl⟩]
    rfl
  · simp [document, gain, ofSource, Document.unplaced, hf]

/-! ### Places -/

mutual

/-- A derivation holds for fragments at any places. -/
theorem Node.of_unplaced {cs rest : List Char} {scripts : List Script}
    {fragments : List Fragment} : Node cs rest scripts fragments → ∀ {fragments'},
      fragments'.map Fragment.unplaced = fragments.map Fragment.unplaced →
      Node cs rest scripts fragments'
  | .comment hb, _, h => by
    obtain rfl := List.map_eq_nil_iff.mp h
    exact .comment hb
  | .script hh hb, _, h => by
    obtain rfl := List.map_eq_nil_iff.mp h
    exact .script hh hb
  | .leaf hh, _, h => by
    obtain ⟨children, line, column, rfl, hc⟩ := Fragment.map_unplaced_eq_singleton h
    obtain rfl := List.map_eq_nil_iff.mp hc
    exact .leaf hh
  | .element hh hn hw hc, _, h => by
    obtain ⟨children, line, column, rfl, hc'⟩ := Fragment.map_unplaced_eq_singleton h
    exact .element hh hn hw (hc.of_unplaced hc')

theorem Content.of_unplaced {cs rest : List Char} {scripts : List Script}
    {fragments : List Fragment} : Content cs rest scripts fragments → ∀ {fragments'},
      fragments'.map Fragment.unplaced = fragments.map Fragment.unplaced →
      Content cs rest scripts fragments'
  | .nil, _, h => by
    obtain rfl := List.map_eq_nil_iff.mp h
    exact .nil
  | .cons hn hw hc, _, h => by
    rw [List.map_append] at h
    obtain ⟨fs, fs', rfl, hf, hf'⟩ := List.map_eq_append_iff.mp h
    exact .cons (hn.of_unplaced hf) hw (hc.of_unplaced hf')

end

theorem Derives.of_unplaced {source : List Char} {d d' : Document} (h : Derives source d)
    (he : d'.unplaced = d.unplaced) : Derives source d' := by
  obtain ⟨w, cs, hs, hw, hc⟩ := h
  obtain ⟨hs', hf⟩ := Document.mk.inj he
  exact ⟨w, cs, hs, hw, hs' ▸ hc.of_unplaced hf⟩

namespace Document

variable {source : String} {path : Option String} {d : Document}

theorem derives_of_parse (h : parse source path = .ok d) : Derives source.toList d := by
  obtain ⟨r, hr, rfl⟩ := parse_eq_ok_iff.mp h
  exact derives_of_run hr

theorem parse_of_derives (h : Derives source.toList d) (path : Option String) :
    ∃ d', parse source path = .ok d' ∧ d'.unplaced = d.unplaced := by
  obtain ⟨r, hr, hd⟩ := run_of_derives h
  exact ⟨r.document, parse_eq_ok_iff.mpr ⟨r, hr, rfl⟩, hd⟩

/-- The sources of the grammar are parsed to what they derive, and every other source is
refused. -/
theorem parse_accepts (source : String) (path : Option String) :
    (∀ d, (∃ d', parse source path = .ok d' ∧ d'.unplaced = d.unplaced) ↔
      Derives source.toList d) ∧
    ((∃ e, parse source path = .error e) ↔ ¬ ∃ d, Derives source.toList d) := by
  refine ⟨fun d => ⟨?_, fun h => parse_of_derives h path⟩, ?_⟩
  · rintro ⟨d', h, he⟩
    exact (derives_of_parse h).of_unplaced he.symm
  · constructor
    · rintro ⟨e, he⟩ ⟨d, hd⟩
      obtain ⟨d', h, -⟩ := parse_of_derives hd path
      cases he.symm.trans h
    · intro hd
      cases h : parse source path with
      | ok d => exact absurd ⟨d, derives_of_parse h⟩ hd
      | error e => exact ⟨e, rfl⟩

end Document

end SceneMarkup
