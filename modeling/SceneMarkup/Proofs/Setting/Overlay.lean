import SceneMarkup.Proofs.Entries
import SceneMarkup.Proofs.Text.Splitting
import SceneMarkup.Setting.Table

/-! # What an overlay leads to

A path through an overlay leads where it leads in the upper value, except that a table is laid over
what the path leads to below. Where the upper value says nothing of the path, the lower one does.
-/

namespace SceneMarkup.Setting

/-- Some proper front part of a path leads to a value that is no table. -/
def Blocks (v : Value) (path : List String) : Prop :=
  ∃ front back w, path = front ++ back ∧ back ≠ [] ∧ find? front v = some w ∧
    ∀ es, w ≠ .table es

/-- A value says nothing of a path: the path leads nowhere, and nothing on the way blocks it. -/
def Silent (v : Value) (path : List String) : Prop := find? path v = none ∧ ¬ Blocks v path

/-- The keys of every table to which a path leads are distinct. -/
def Distinct (v : Value) : Prop :=
  ∀ path es, find? path v = some (.table es) → (Entries.keys es).Nodup

def laidOver (below : Option Value) (v : Value) : Value := below.elim v (overlay · v)

variable {b v w : Value} {below : Option Value} {es bs : Entries Value} {p : String}
  {ps qs path : List String}

/-! ### Paths -/

theorem steps_ne_nil (key : String) : steps key ≠ [] := by
  simpa [steps] using Text.splitOnP_ne_nil (· == '.') key.toList

theorem find?_nil (v : Value) : find? [] v = some v := by
  cases v <;> rfl

theorem find?_cons_table (es : Entries Value) (p : String) (ps : List String) :
    find? (p :: ps) (.table es) = (Entries.get? es p).bind (find? ps) := rfl

theorem find?_cons_of_ne (h : ∀ es, v ≠ .table es) : find? (p :: ps) v = none := by
  cases v with
  | table es => exact absurd rfl (h es)
  | _ => rfl

theorem table_or_ne (v : Value) : (∃ es, v = .table es) ∨ ∀ es, v ≠ .table es := by
  cases v with
  | table es => exact .inl ⟨es, rfl⟩
  | _ => exact .inr (by simp)

theorem find?_append (ps qs : List String) (v : Value) :
    find? (ps ++ qs) v = (find? ps v).bind (find? qs) := by
  induction ps generalizing v with
  | nil => rw [List.nil_append, find?_nil, Option.bind_some]
  | cons p ps ih =>
    rcases table_or_ne v with ⟨es, rfl⟩ | h
    · rw [List.cons_append, find?_cons_table, find?_cons_table, Option.bind_assoc]
      exact congrArg _ (funext ih)
    · rw [List.cons_append, find?_cons_of_ne h, find?_cons_of_ne h, Option.bind_none]

theorem blocks_cons_of_ne (h : ∀ es, v ≠ .table es) : Blocks v (p :: ps) :=
  ⟨[], p :: ps, v, rfl, by simp, find?_nil v, h⟩

theorem blocks_cons_table : Blocks (.table es) (p :: ps) ↔
    ∃ v, Entries.get? es p = some v ∧ Blocks v ps := by
  constructor
  · rintro ⟨_ | ⟨q, front⟩, back, w, hp, hb, hf, hw⟩
    · rw [find?_nil] at hf
      exact absurd (Option.some.inj hf).symm (hw es)
    · obtain ⟨rfl, rfl⟩ := List.cons.inj hp
      obtain ⟨v, hv, hf⟩ := Option.bind_eq_some_iff.mp (find?_cons_table es p front ▸ hf)
      exact ⟨v, hv, front, back, w, rfl, hb, hf, hw⟩
  · rintro ⟨v, hv, front, back, w, rfl, hb, hf, hw⟩
    refine ⟨p :: front, back, w, rfl, hb, ?_, hw⟩
    rw [find?_cons_table, hv]
    exact hf

theorem Blocks.find?_eq_none (h : Blocks v path) : find? path v = none := by
  obtain ⟨front, back, w, rfl, hb, hf, hw⟩ := h
  obtain ⟨q, back, rfl⟩ := List.exists_cons_of_ne_nil hb
  rw [find?_append, hf]
  exact find?_cons_of_ne hw

/-! ### Overlays -/

theorem overlay_table (bs es : Entries Value) :
    overlay (.table bs) (.table es) = .table (overlayEntries bs es) := by
  rw [overlay]

/-- Nothing merges unless both values are tables. -/
theorem laidOver_eq_self (h : ∀ bs es, below = some (.table bs) → v ≠ .table es) :
    laidOver below v = v := by
  cases below with
  | none => rfl
  | some b =>
    rw [laidOver, Option.elim_some, overlay]
    exact fun bs es hb hv => h bs es (congrArg some hb) hv

theorem laidOver_of_ne (h : ∀ es, v ≠ .table es) : laidOver below v = v :=
  laidOver_eq_self fun _ es _ => h es

theorem exists_laidOver_table (below : Option Value) (es : Entries Value) :
    ∃ es', laidOver below (.table es) = .table es' := by
  by_cases h : ∃ bs, below = some (.table bs)
  · obtain ⟨bs, rfl⟩ := h
    exact ⟨_, overlay_table bs es⟩
  · exact ⟨es, laidOver_eq_self fun bs _ hb => absurd ⟨bs, hb⟩ h⟩

theorem overlayEntries_cons (bs : Entries Value) (p : String) (v : Value) (es : Entries Value) :
    overlayEntries bs ((p, v) :: es) =
      overlayEntries (Entries.put bs p (laidOver (Entries.get? bs p) v)) es := by
  rw [overlayEntries]
  cases Entries.get? bs p <;> rfl

theorem get?_overlayEntries (h : (Entries.keys es).Nodup) (bs : Entries Value) (p : String) :
    Entries.get? (overlayEntries bs es) p = match Entries.get? es p with
      | none => Entries.get? bs p
      | some v => some (laidOver (Entries.get? bs p) v) := by
  induction es generalizing bs with
  | nil => rw [overlayEntries]; rfl
  | cons e es ih =>
    obtain ⟨q, v⟩ := e
    obtain ⟨hq, hs⟩ := List.nodup_cons.mp h
    rw [overlayEntries_cons, ih hs, Entries.get?_put, Entries.get?]
    by_cases hp : q = p
    · subst hp
      rw [Entries.get?_eq_none_iff.mpr hq]
      simp
    · simp [hp]

theorem nodup_keys_overlayEntries (h : (Entries.keys bs).Nodup) (es : Entries Value) :
    (Entries.keys (overlayEntries bs es)).Nodup := by
  induction es generalizing bs with
  | nil => rwa [overlayEntries]
  | cons e es ih =>
    rw [overlayEntries_cons]
    exact ih (Entries.nodup_keys_put h)

theorem distinct_of_ne (h : ∀ es, v ≠ .table es) : Distinct v := by
  rintro (_ | ⟨p, ps⟩) es he
  · rw [find?_nil] at he
    exact absurd (Option.some.inj he) (h es)
  · rw [find?_cons_of_ne h] at he
    cases he

theorem distinct_table :
    Distinct (.table es) ↔ (Entries.keys es).Nodup ∧ ∀ e ∈ es, Distinct e.2 := by
  constructor
  · intro h
    have hk : (Entries.keys es).Nodup := h [] es (find?_nil _)
    refine ⟨hk, fun e he path ws hw => h (e.1 :: path) ws ?_⟩
    rw [find?_cons_table, Entries.get?_of_mem hk he]
    exact hw
  · rintro ⟨hk, h⟩ (_ | ⟨p, ps⟩) ws hw
    · obtain rfl := Value.table.inj (Option.some.inj hw)
      exact hk
    · rw [find?_cons_table] at hw
      obtain ⟨v, hv, hw⟩ := Option.bind_eq_some_iff.mp hw
      exact h (p, v) (Entries.mem_of_get? hv) ps ws hw

theorem Distinct.nodup (h : Distinct (.table es)) : (Entries.keys es).Nodup :=
  (distinct_table.mp h).1

theorem Distinct.get? (h : Distinct (.table es)) (hv : Entries.get? es p = some v) : Distinct v :=
  (distinct_table.mp h).2 (p, v) (Entries.mem_of_get? hv)

theorem find?_laidOver (hv : Distinct v) (below : Option Value) (path : List String) :
    (Blocks v path ∧ find? path (laidOver below v) = none) ∨
    (∃ w, find? path v = some w ∧
      find? path (laidOver below v) = some (laidOver (below.bind (find? path)) w)) ∨
    (Silent v path ∧ find? path (laidOver below v) = below.bind (find? path)) := by
  induction path generalizing below v with
  | nil =>
    refine .inr (.inl ⟨v, find?_nil v, ?_⟩)
    rw [find?_nil, show below.bind (find? []) = below by simp [funext find?_nil]]
  | cons p ps ih =>
    by_cases ht : ∃ bs es, below = some (.table bs) ∧ v = .table es
    · obtain ⟨bs, es, rfl, rfl⟩ := ht
      have ho : laidOver (some (.table bs)) (.table es) = .table (overlayEntries bs es) :=
        overlay_table bs es
      rw [ho, find?_cons_table, find?_cons_table, get?_overlayEntries hv.nodup, Option.bind_some,
        find?_cons_table]
      cases hg : Entries.get? es p with
      | none =>
        refine .inr (.inr ⟨⟨by rw [find?_cons_table, hg]; rfl, fun hb => ?_⟩, rfl⟩)
        obtain ⟨w, hw, -⟩ := blocks_cons_table.mp hb
        cases hg.symm.trans hw
      | some w =>
        rcases ih (hv.get? hg) (Entries.get? bs p) with ⟨hb, he⟩ | ⟨u, hu, he⟩ | ⟨⟨hn, hb⟩, he⟩
        · exact .inl ⟨blocks_cons_table.mpr ⟨w, hg, hb⟩, he⟩
        · exact .inr (.inl ⟨u, hu, he⟩)
        · refine .inr (.inr ⟨⟨by rw [find?_cons_table, hg]; exact hn, fun h => ?_⟩, he⟩)
          obtain ⟨w', hw, hb'⟩ := blocks_cons_table.mp h
          obtain rfl := Option.some.inj (hg.symm.trans hw)
          exact hb hb'
    · -- Nothing merges here, and the path leads nowhere below.
      have ho : laidOver below v = v := laidOver_eq_self fun bs es hb hv => ht ⟨bs, es, hb, hv⟩
      by_cases hb : Blocks v (p :: ps)
      · exact .inl ⟨hb, by rw [ho, hb.find?_eq_none]⟩
      · have hn : below.bind (find? (p :: ps)) = none := by
          rcases table_or_ne v with ⟨es, rfl⟩ | h
          · cases below with
            | none => rfl
            | some b => exact find?_cons_of_ne fun bs h => ht ⟨bs, es, congrArg some h, rfl⟩
          · exact absurd (blocks_cons_of_ne h) hb
        rw [ho, hn]
        cases hw : find? (p :: ps) v with
        | none => exact .inr (.inr ⟨⟨hw, hb⟩, rfl⟩)
        | some w => exact .inr (.inl ⟨w, rfl, rfl⟩)

/-- Where the upper value leads a path somewhere, that is laid over what stands there below. -/
theorem find?_laidOver_of_some (hv : Distinct v) (h : find? path v = some w)
    (below : Option Value) :
    find? path (laidOver below v) = some (laidOver (below.bind (find? path)) w) := by
  rcases find?_laidOver hv below path with ⟨hb, -⟩ | ⟨u, hu, he⟩ | ⟨⟨hn, -⟩, -⟩
  · cases hb.find?_eq_none.symm.trans h
  · obtain rfl := Option.some.inj (hu.symm.trans h)
    exact he
  · cases hn.symm.trans h

/-- What a path leads to depends on where it leads in the upper value, and on what blocks it. -/
theorem find?_laidOver_congr (hv : Distinct v) (hw : Distinct w)
    (hf : find? path v = find? path w) (hb : Blocks v path ↔ Blocks w path)
    (below : Option Value) : find? path (laidOver below v) = find? path (laidOver below w) := by
  rcases find?_laidOver hv below path with ⟨h, he⟩ | ⟨u, hu, he⟩ | ⟨⟨hn, h⟩, he⟩
  · rcases find?_laidOver hw below path with ⟨-, he'⟩ | ⟨u', hu', -⟩ | ⟨⟨-, h'⟩, -⟩
    · rw [he, he']
    · cases (hb.mp h).find?_eq_none.symm.trans hu'
    · exact absurd (hb.mp h) h'
  · rw [he, find?_laidOver_of_some hw (hf ▸ hu)]
  · rcases find?_laidOver hw below path with ⟨h', -⟩ | ⟨u', hu', -⟩ | ⟨-, he'⟩
    · exact absurd (hb.mpr h') h
    · cases hn.symm.trans (hf.trans hu')
    · rw [he, he']

theorem Distinct.laidOver (hb : ∀ b, below = some b → Distinct b) (hv : Distinct v) :
    Distinct (laidOver below v) := by
  intro path es he
  rcases find?_laidOver hv below path with ⟨-, h⟩ | ⟨w, hw, h⟩ | ⟨-, h⟩
  · cases h.symm.trans he
  · obtain hl := Option.some.inj (h.symm.trans he)
    by_cases ht : ∃ bs ws, below.bind (find? path) = some (.table bs) ∧ w = .table ws
    · obtain ⟨bs, ws, hbs, rfl⟩ := ht
      obtain ⟨b, rfl, hbs'⟩ := Option.bind_eq_some_iff.mp hbs
      rw [hbs] at hl
      obtain rfl := Value.table.inj ((overlay_table bs ws).symm.trans hl)
      exact nodup_keys_overlayEntries (hb b rfl path bs hbs') ws
    · rw [laidOver_eq_self fun bs ws hb hw => ht ⟨bs, ws, hb, hw⟩] at hl
      exact hv path es (hl ▸ hw)
  · obtain ⟨b, rfl, hf⟩ := Option.bind_eq_some_iff.mp (h.symm.trans he)
    exact hb b rfl path es hf

end SceneMarkup.Setting
