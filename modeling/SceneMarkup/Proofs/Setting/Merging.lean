import SceneMarkup.Proofs.Setting.Overlay
import SceneMarkup.Proofs.Value.Sameness
import SceneMarkup.Setting.Table

/-! # Merging layers that are the same

Overlaying cannot tell values that are the same apart, neither above nor below, and neither can the
bound on the levels of a layer. So layers amount to the same when one of them is exchanged for
the same data.
-/

namespace SceneMarkup.Setting

open Value (Same SameIfAny Keyed seen same_table_iff)

/-- Tables that are the same, or the same failure twice. -/
inductive Alike : Except Misuse (Entries Value) → Except Misuse (Entries Value) → Prop where
  | ok {es es' : Entries Value} : Same (.table es) (.table es') → Alike (.ok es) (.ok es')
  | error (m : Misuse) : Alike (.error m) (.error m)

variable {a b : Option Value} {v w u : Value} {bs bs' : Entries Value} {layers : List Layer}
  {levels : Nat}

theorem Alike.refl (r : Except Misuse (Entries Value)) : Alike r r := by
  cases r with
  | ok es => exact .ok (.refl _)
  | error m => exact .error m

theorem Alike.bind {r r' : Except Misuse (Entries Value)}
    {f g : Entries Value → Except Misuse (Entries Value)} (h : Alike r r')
    (hf : ∀ es es', Same (.table es) (.table es') → Alike (f es) (g es')) :
    Alike (r >>= f) (r' >>= g) := by
  cases h with
  | ok h => exact hf _ _ h
  | error m => exact .error m

/-! ### Overlays -/

theorem bare_laidOver (b : Option Value) (v : Value) : (laidOver b v).bare = v.bare := by
  rcases table_or_ne v with ⟨es, rfl⟩ | h
  · obtain ⟨es', he⟩ := exists_laidOver_table b es
    rw [he]
    rfl
  · rw [laidOver_of_ne h]

theorem table_of_sameIfAny (h : SameIfAny a b) (ha : a = some (.table bs)) :
    ∃ bs', b = some (.table bs') ∧ Same (.table bs) (.table bs') := by
  subst ha
  obtain ⟨w, rfl, hs⟩ := h.exists_right
  obtain ⟨bs', rfl⟩ := hs.exists_table
  exact ⟨bs', rfl, hs⟩

theorem same_laidOver (hb : SameIfAny a b) (hv : Keyed v) (hw : Keyed w) (h : Same v w) :
    Same (laidOver a v) (laidOver b w) := by
  intro r
  induction r generalizing a b v w with
  | nil => simp only [seen, bare_laidOver, h.bare_eq]
  | cons s r ih =>
    by_cases ht : ∃ bs es, a = some (.table bs) ∧ v = .table es
    · obtain ⟨bs, es, ha, rfl⟩ := ht
      obtain ⟨bs', rfl, hbs⟩ := table_of_sameIfAny hb ha
      obtain ⟨es', rfl⟩ := h.exists_table
      obtain rfl := ha
      rw [show laidOver (some (.table bs)) (.table es) = _ from overlay_table bs es,
        show laidOver (some (.table bs')) (.table es') = _ from overlay_table bs' es']
      cases s with
      | element i => rfl
      | entry k =>
        have hk := same_table_iff.mp hbs k
        have he := same_table_iff.mp h k
        simp only [seen, Value.child?]
        rw [get?_overlayEntries hv.nodup, get?_overlayEntries hw.nodup]
        cases hg : Entries.get? es k with
        | none =>
          rw [hg] at he
          rw [he.eq_none]
          exact hk r
        | some x =>
          rw [hg] at he
          obtain ⟨y, hy, hxy⟩ := he.exists_right
          rw [hy]
          exact ih hk (hv.get? hg) (hw.get? hy) hxy
    · -- Nothing merges on either side.
      have ha : laidOver a v = v := laidOver_eq_self fun bs es hb hv => ht ⟨bs, es, hb, hv⟩
      have hb' : laidOver b w = w := by
        refine laidOver_eq_self fun bs es hbs hes => ?_
        subst hes
        obtain ⟨bs', ha', -⟩ := table_of_sameIfAny (fun r => (hb r).symm) hbs
        obtain ⟨es', he'⟩ := h.symm.exists_table
        exact ht ⟨bs', es', ha', he'⟩
      rw [ha, hb']
      exact h (s :: r)

theorem overlay_of_base_ne (h : ∀ bs, v ≠ .table bs) (u : Value) : overlay v u = u :=
  show laidOver (some v) u = u from
    laidOver_eq_self fun bs _ hb _ => h bs (Option.some.inj hb)

theorem overlay_of_ne (h : ∀ es, u ≠ .table es) (v : Value) : overlay v u = u :=
  show laidOver (some v) u = u from laidOver_of_ne h

-- The lower values differ, and the upper one is any value at all: its keys need not be distinct,
-- so this follows the recursion of the overlay and not what the keys lead to.
mutual

theorem same_overlay {v w : Value} (h : Same v w) :
    (u : Value) → Same (overlay v u) (overlay w u)
  | .table es => by
    rcases table_or_ne v with ⟨bs, rfl⟩ | hv
    · obtain ⟨bs', rfl⟩ := h.exists_table
      rw [overlay_table, overlay_table]
      exact same_overlayEntries h es
    · rw [overlay_of_base_ne hv, overlay_of_base_ne (h.ne_table hv)]
      exact .refl _
  | .null | .bool _ | .integer _ | .binary _ | .text _ | .list _ | .path _ => by
    rw [overlay_of_ne (by simp), overlay_of_ne (by simp)]
    exact .refl _

theorem same_overlayEntries {bs bs' : Entries Value} (h : Same (.table bs) (.table bs')) :
    (es : List (String × Value)) →
      Same (.table (overlayEntries bs es)) (.table (overlayEntries bs' es))
  | [] => by
    rw [overlayEntries, overlayEntries]
    exact h
  | (k, v) :: es => by
    rw [overlayEntries_cons, overlayEntries_cons]
    refine same_overlayEntries (same_table_iff.mpr fun j => ?_) es
    rw [Entries.get?_put, Entries.get?_put]
    by_cases hj : k = j
    · have hk := same_table_iff.mp h k
      rw [if_pos hj, if_pos hj]
      cases hb : Entries.get? bs k with
      | none =>
        rw [hb] at hk
        rw [hk.eq_none]
        exact .refl _
      | some x =>
        rw [hb] at hk
        obtain ⟨y, hy, hxy⟩ := hk.exists_right
        rw [hy]
        exact same_overlay hxy v
    · rw [if_neg hj, if_neg hj]
      exact same_table_iff.mp h j

end

/-! ### Layers -/

theorem alike_addLayer (l : Layer) (h : Same (.table bs) (.table bs')) :
    Alike (addLayer levels bs l) (addLayer levels bs' l) := by
  unfold addLayer
  split
  · exact .error _
  · split
    · exact .ok (same_overlayEntries h _)
    · exact .error _

theorem addLayer_of_ne {l : Layer} (h : ∀ es, l.data ≠ .table es) (bs : Entries Value) :
    addLayer levels bs l =
      .error (if l.data.levels > levels then .tooDeep else .layerWithoutEntries) := by
  unfold addLayer
  split
  · rfl
  · split
    · next es he => exact absurd he (h es)
    · rfl

theorem alike_addLayer_of_same {l l' : Layer} (hl : Keyed l.data) (hl' : Keyed l'.data)
    (hs : Same l.data l'.data) (h : Same (.table bs) (.table bs')) :
    Alike (addLayer levels bs l) (addLayer levels bs' l') := by
  have hlv : l.data.levels = l'.data.levels := hs.levels_eq hl hl'
  rcases table_or_ne l.data with ⟨es, he⟩ | hne
  · rw [he] at hs hl
    obtain ⟨es', he'⟩ := hs.exists_table
    rw [he'] at hs hl'
    have ho : Same (.table (overlayEntries bs es)) (.table (overlayEntries bs' es')) := by
      rw [← overlay_table, ← overlay_table]
      exact same_laidOver (a := some (.table bs)) (b := some (.table bs')) h hl hl' hs
    rw [addLayer, addLayer, hlv, he, he']
    split
    · exact .error _
    · exact .ok ho
  · rw [addLayer_of_ne hne, addLayer_of_ne (hs.ne_table hne), hlv]
    exact .error _

/-- A further layer takes a place in the ranking that depends on its priority only. -/
theorem exists_ranked_concat (layers : List Layer) (priority : Int) :
    ∃ slots : List (Option Layer), ∀ l : Layer, l.priority = priority →
      ranked (layers ++ [l]) = slots.map (·.getD l) := by
  let rank (slot : Option Layer) : Int := slot.elim priority Layer.priority
  refine ⟨(layers.map some ++ [none]).mergeSort fun a b => rank a ≤ rank b, fun l hl => ?_⟩
  have hr (slot : Option Layer) : (slot.getD l).priority = rank slot := by
    cases slot with
    | none => exact hl
    | some l' => rfl
  rw [List.map_mergeSort (s := fun a b => a.priority ≤ b.priority)]
  · simp [ranked, Function.comp_def]
  · simp [hr]

theorem alike_foldlM {l l' : Layer}
    (hl : ∀ bs bs', Same (.table bs) (.table bs') →
      Alike (addLayer levels bs l) (addLayer levels bs' l'))
    (slots : List (Option Layer)) (h : Same (.table bs) (.table bs')) :
    Alike ((slots.map (·.getD l)).foldlM (addLayer levels) bs)
      ((slots.map (·.getD l')).foldlM (addLayer levels) bs') := by
  induction slots generalizing bs bs' with
  | nil => exact .ok h
  | cons slot slots ih =>
    have hs : Alike (addLayer levels bs (slot.getD l)) (addLayer levels bs' (slot.getD l')) := by
      cases slot with
      | none => exact hl bs bs' h
      | some l => exact alike_addLayer l h
    rw [List.map_cons, List.map_cons, List.foldlM_cons, List.foldlM_cons]
    exact hs.bind fun _ _ => ih

/-- Layers amount to the same when the data of a further one is the same. -/
theorem alike_merged {l l' : Layer} (hp : l.priority = l'.priority) (hl : Keyed l.data)
    (hl' : Keyed l'.data) (hs : Same l.data l'.data) :
    Alike (merged levels (layers ++ [l])) (merged levels (layers ++ [l'])) := by
  obtain ⟨slots, hr⟩ := exists_ranked_concat layers l.priority
  rw [merged, merged, hr l rfl, hr l' hp.symm]
  exact alike_foldlM (fun bs bs' => alike_addLayer_of_same hl hl' hs) slots (.refl _)

end SceneMarkup.Setting
