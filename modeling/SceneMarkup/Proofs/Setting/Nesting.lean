import Mathlib.Data.List.Induction
import SceneMarkup.Proofs.Json.Keys
import SceneMarkup.Proofs.Setting.Overlay
import SceneMarkup.Proofs.Value.Sameness
import SceneMarkup.Setting.Environment

/-! # What nesting dotted keys leads to

At every place of the nested table stands what the last key put there whose path meets the place:
the path leads through it, or ends above it. An assignment fails where an earlier one has put
something that is no table on its way, which does not happen when entries on one path agree on what
stands there.
-/

namespace SceneMarkup.Setting

open Value (Slot Same SameIfAny Keyed seen)

/-- The route that a path takes through tables. -/
def route (path : List String) : List Slot := path.map .entry

/-- A route goes through the end of a path, or stops on the way to it. -/
def Meets : List String → List Slot → Prop
  | [], _ => True
  | _ :: _, [] => True
  | p :: ps, s :: r => s = .entry p ∧ Meets ps r

/-- The value that has a path alone, with a value at its end. -/
def spread : List String → Value → Value
  | [], v => v
  | p :: ps, v => .table [(p, spread ps v)]

/-- The first entry holds the second one, if its path leads there. -/
def Holds (e e' : String × Value) : Prop :=
  ∀ rest, steps e'.1 = steps e.1 ++ rest → ∃ w, find? rest e.2 = some w ∧ Same w e'.2

/-- Two entries agree when each of them holds the other one, if its path leads there. -/
def Compatible (e e' : String × Value) : Prop := Holds e e' ∧ Holds e' e

variable {t t' v w : Value} {p : String} {ps qs path front back : List String} {s : Slot}
  {r : List Slot} {e e' : String × Value} {flat before after : Entries Value}

theorem Compatible.symm (h : Compatible e e') : Compatible e' e := ⟨h.2, h.1⟩

theorem Compatible.refl (e : String × Value) : Compatible e e := by
  have h : Holds e e := by
    intro rest hr
    obtain rfl : rest = [] := List.self_eq_append_right.mp hr
    exact ⟨e.2, find?_nil e.2, .refl e.2⟩
  exact ⟨h, h⟩

theorem compatible_of_apart (h : ¬ steps e.1 <+: steps e'.1) (h' : ¬ steps e'.1 <+: steps e.1) :
    Compatible e e' := by
  constructor
  · intro rest hr
    exact absurd ⟨rest, hr.symm⟩ h
  · intro rest hr
    exact absurd ⟨rest, hr.symm⟩ h'

/-! ### Paths and routes -/

@[simp] theorem meets_nil_left (r : List Slot) : Meets [] r := by simp [Meets]

@[simp] theorem meets_nil_right (path : List String) : Meets path [] := by
  cases path <;> simp [Meets]

theorem meets_front (front back : List String) : Meets (front ++ back) (route front) := by
  induction front with
  | nil => simp [route]
  | cons p ps ih => exact ⟨rfl, ih⟩

theorem seen_cons_table (es : Entries Value) (p : String) (r : List Slot) :
    seen (.entry p :: r) (.table es) = (Entries.get? es p).bind (seen r) := rfl

theorem seen_table_nil (h : r ≠ []) : seen r (.table []) = none := by
  rcases r with _ | ⟨k | i, r⟩
  · exact absurd rfl h
  · rfl
  · rfl

theorem seen_route (path : List String) (t : Value) :
    seen (route path) t = (find? path t).map Value.bare := by
  induction path generalizing t with
  | nil => rw [find?_nil]; rfl
  | cons p ps ih =>
    rcases table_or_ne t with ⟨es, rfl⟩ | h
    · rw [find?_cons_table, Option.map_bind]
      exact congrArg _ (funext ih)
    · rw [find?_cons_of_ne h]
      cases t with
      | table es => exact absurd rfl (h es)
      | _ => rfl

theorem find?_spread (path rest : List String) (v : Value) :
    find? (path ++ rest) (spread path v) = find? rest v := by
  induction path with
  | nil => rfl
  | cons p ps ih => simpa [spread, find?, Entries.get?] using ih

theorem seen_spread_front (front : List String) (v : Value) (hb : back ≠ []) :
    seen (route front) (spread (front ++ back) v) = some (.table []) := by
  induction front with
  | nil =>
    obtain ⟨p, ps, rfl⟩ := List.exists_cons_of_ne_nil hb
    rfl
  | cons p ps ih => simpa [route, spread, seen_cons_table, Entries.get?] using ih

/-- Where a path leads to a value, a route that meets the path sees nothing but that value. -/
theorem seen_of_find? (h : find? path t = some w) (hs : Same w v) (hm : Meets path r) :
    seen r t = seen r (spread path v) := by
  induction path generalizing t r with
  | nil =>
    rw [find?_nil] at h
    obtain rfl := Option.some.inj h
    exact hs r
  | cons p ps ih =>
    rcases table_or_ne t with ⟨es, rfl⟩ | hne
    · cases r with
      | nil => rfl
      | cons s r =>
        obtain ⟨rfl, hm⟩ := hm
        obtain ⟨x, hx, h⟩ := Option.bind_eq_some_iff.mp (find?_cons_table es p ps ▸ h)
        rw [seen_cons_table, hx, Option.bind_some, ih h hm]
        simp [spread, seen_cons_table, Entries.get?]
    · rw [find?_cons_of_ne hne] at h
      cases h

/-- A route that meets two paths passes neither of them, unless one is a front part of the other. -/
theorem prefix_or_seen_spread (hp : Meets ps r) (hq : Meets qs r) (v w : Value) :
    ps <+: qs ∨ qs <+: ps ∨
      seen r (spread ps v) = some (.table []) ∧ seen r (spread qs w) = some (.table []) := by
  induction r generalizing ps qs with
  | nil =>
    cases ps with
    | nil => exact .inl List.nil_prefix
    | cons p ps =>
      cases qs with
      | nil => exact .inr (.inl List.nil_prefix)
      | cons q qs => exact .inr (.inr ⟨rfl, rfl⟩)
  | cons s r ih =>
    cases ps with
    | nil => exact .inl List.nil_prefix
    | cons p ps =>
      cases qs with
      | nil => exact .inr (.inl List.nil_prefix)
      | cons q qs =>
        obtain ⟨rfl, hp⟩ := hp
        obtain ⟨hs, hq⟩ := hq
        obtain rfl := Slot.entry.inj hs
        simpa [spread, seen_cons_table, Entries.get?, List.cons_prefix_cons] using ih hp hq

theorem Holds.seen_spread (h : Holds e e') (hp : steps e.1 <+: steps e'.1)
    (hm : Meets (steps e'.1) r) :
    seen r (spread (steps e.1) e.2) = seen r (spread (steps e'.1) e'.2) := by
  obtain ⟨rest, hr⟩ := hp
  obtain ⟨w, hw, hs⟩ := h rest hr.symm
  refine seen_of_find? ?_ hs hm
  rw [← hr, find?_spread, hw]

/-- Where a route meets the paths of two entries that agree, they put the same there. -/
theorem Compatible.seen_spread (h : Compatible e e') (hm : Meets (steps e.1) r)
    (hm' : Meets (steps e'.1) r) :
    seen r (spread (steps e.1) e.2) = seen r (spread (steps e'.1) e'.2) := by
  rcases prefix_or_seen_spread hm hm' e.2 e'.2 with hp | hp | ⟨he, he'⟩
  · exact h.1.seen_spread hp hm'
  · exact (h.2.seen_spread hp hm).symm
  · rw [he, he']

/-! ### One assignment -/

theorem assign_cons_table (v : Value) (p : String) (ps : List String) (es : Entries Value) :
    assign v (p :: ps) (.table es) =
      (assign v ps ((Entries.get? es p).getD (.table []))).map
        fun inner => .table (Entries.put es p inner) := by
  cases ps with
  | nil => rfl
  | cons q ps =>
    rw [assign]
    cases assign v (q :: ps) ((Entries.get? es p).getD (.table [])) <;> rfl

theorem assign_cons_of_ne (v : Value) (p : String) (ps : List String) (h : ∀ es, t ≠ .table es) :
    ∃ m, assign v (p :: ps) t = .error m := by
  cases t with
  | table es => exact absurd rfl (h es)
  | _ => cases ps <;> exact ⟨_, rfl⟩

theorem assign_cons_ok (h : assign v (p :: ps) t = .ok t') : ∃ es inner, t = .table es ∧
    assign v ps ((Entries.get? es p).getD (.table [])) = .ok inner ∧
    t' = .table (Entries.put es p inner) := by
  rcases table_or_ne t with ⟨es, rfl⟩ | hne
  · rw [assign_cons_table] at h
    cases hi : assign v ps ((Entries.get? es p).getD (.table [])) with
    | error m =>
      rw [hi] at h
      cases h
    | ok inner =>
      rw [hi] at h
      exact ⟨es, inner, rfl, hi, (Except.ok.inj h).symm⟩
  · obtain ⟨m, hm⟩ := assign_cons_of_ne v p ps hne
    cases hm.symm.trans h

theorem not_blocks_nil (v : Value) : ¬ Blocks v [] := by
  rintro ⟨front, back, w, hp, hb, -⟩
  exact hb (List.append_eq_nil_iff.mp hp.symm).2

theorem not_blocks_table_nil (path : List String) : ¬ Blocks (.table []) path := by
  cases path with
  | nil => exact not_blocks_nil _
  | cons p ps => simp [blocks_cons_table, Entries.get?]

/-- An assignment fails exactly where something that is no table stands on its way. -/
theorem exists_assign_iff : (∃ t', assign v path t = .ok t') ↔ ¬ Blocks t path := by
  induction path generalizing t with
  | nil => exact ⟨fun _ => not_blocks_nil t, fun _ => ⟨v, by rw [assign]⟩⟩
  | cons p ps ih =>
    rcases table_or_ne t with ⟨es, rfl⟩ | hne
    · have hs : (∃ t', assign v (p :: ps) (.table es) = .ok t') ↔
          ∃ inner, assign v ps ((Entries.get? es p).getD (.table [])) = .ok inner := by
        rw [assign_cons_table]
        cases assign v ps ((Entries.get? es p).getD (.table [])) <;> simp [Except.map]
      rw [hs, ih, blocks_cons_table]
      cases hg : Entries.get? es p with
      | none => simp [not_blocks_table_nil]
      | some w => simp
    · obtain ⟨m, hm⟩ := assign_cons_of_ne v p ps hne
      constructor
      · rintro ⟨t', ht⟩
        cases hm.symm.trans ht
      · exact fun h => absurd (blocks_cons_of_ne hne) h

theorem find?_assign (h : assign v path t = .ok t') : find? path t' = some v := by
  induction path generalizing t t' with
  | nil =>
    rw [assign] at h
    rw [find?_nil, Except.ok.inj h]
  | cons p ps ih =>
    obtain ⟨es, inner, rfl, hi, rfl⟩ := assign_cons_ok h
    rw [find?_cons_table, Entries.get?_put, if_pos rfl]
    exact ih hi

theorem seen_assign_of_not_meets (h : assign v path t = .ok t') (hm : ¬ Meets path r) :
    seen r t' = seen r t := by
  induction path generalizing t t' r with
  | nil => simp at hm
  | cons p ps ih =>
    obtain ⟨es, inner, rfl, hi, rfl⟩ := assign_cons_ok h
    rcases r with _ | ⟨k | i, r⟩
    · rfl
    · rw [seen_cons_table, seen_cons_table, Entries.get?_put]
      by_cases hk : p = k
      · subst hk
        have hm' : ¬ Meets ps r := fun h => hm ⟨rfl, h⟩
        have hr : r ≠ [] := by
          rintro rfl
          exact hm' (meets_nil_right ps)
        rw [if_pos rfl, Option.bind_some, ih hi hm']
        cases Entries.get? es p with
        | none => exact seen_table_nil hr
        | some w => rfl
      · rw [if_neg hk]
    · rfl

theorem keyed_assign (ht : Keyed t) (hv : Keyed v) (h : assign v path t = .ok t') : Keyed t' := by
  induction path generalizing t t' with
  | nil =>
    rw [assign] at h
    exact Except.ok.inj h ▸ hv
  | cons p ps ih =>
    obtain ⟨es, inner, rfl, hi, rfl⟩ := assign_cons_ok h
    have hi' : Keyed inner := by
      refine ih ?_ hi
      cases hg : Entries.get? es p with
      | none => exact .table (by simp) (by simp)
      | some w => exact ht.get? hg
    refine .table (Entries.nodup_keys_put ht.nodup) fun e he => ?_
    rcases Entries.mem_of_mem_put he with he | rfl
    · exact ht.of_mem he
    · exact hi'

/-! ### All assignments -/

theorem nest_concat (flat : Entries Value) (e : String × Value) :
    nest (flat ++ [e]) = nest flat >>= assign e.2 (steps e.1) := by
  simp [nest, List.foldlM_append]

theorem nest_concat_ok (h : nest (flat ++ [e]) = .ok t') :
    ∃ t, nest flat = .ok t ∧ assign e.2 (steps e.1) t = .ok t' := by
  rw [nest_concat] at h
  cases ht : nest flat with
  | error m =>
    rw [ht] at h
    cases h
  | ok t =>
    rw [ht] at h
    exact ⟨t, rfl, h⟩

theorem keyed_nest (hv : ∀ e ∈ flat, Keyed e.2) (h : nest flat = .ok t) : Keyed t := by
  induction flat using List.reverseRecOn generalizing t with
  | nil =>
    obtain rfl := Except.ok.inj h
    exact .table (by simp) (by simp)
  | append_singleton flat e ih =>
    obtain ⟨t, ht, ha⟩ := nest_concat_ok h
    exact keyed_assign (ih (fun e' he => hv e' (by simp [he])) ht) (hv e (by simp)) ha

theorem keyed_valueOfText (dialect : Json.Dialect) (text : String) :
    Keyed (valueOfText dialect text) := by
  unfold valueOfText
  by_cases ht : Text.lower text = "true" ∨ Text.lower text = "yes"
  · rw [if_pos ht]
    exact .plain (by simp) (by simp)
  by_cases hf : Text.lower text = "false" ∨ Text.lower text = "no"
  · rw [if_neg ht, if_pos hf]
    exact .plain (by simp) (by simp)
  rw [if_neg ht, if_neg hf]
  cases Number.readInt text with
  | some i => exact .plain (by simp) (by simp)
  | none =>
    cases Number.readBinary64 text with
    | some x => exact .plain (by simp) (by simp)
    | none =>
      cases hj : Json.read? dialect text with
      | none => simpa using Keyed.plain (by simp) (by simp)
      | some j =>
        dsimp only
        split
        · exact Json.read?_keyed hj
        · exact .plain (by simp) (by simp)

theorem keyed_of_mem_overrides {dialect : Json.Dialect} {environment : List (String × String)}
    (h : e ∈ overrides dialect environment) : Keyed e.2 := by
  obtain ⟨x, -, hx⟩ := List.mem_filterMap.mp (Entries.mem_of_mem_ofList h)
  obtain ⟨k, -, rfl⟩ := Option.map_eq_some_iff.mp hx
  exact keyed_valueOfText dialect x.2

theorem seen_nest (h : nest flat = .ok t) (r : List Slot) :
    ((∀ e ∈ flat, ¬ Meets (steps e.1) r) ∧ seen r t = seen r (.table [])) ∨
    ∃ before e after, flat = before ++ e :: after ∧ Meets (steps e.1) r ∧
      (∀ e' ∈ after, ¬ Meets (steps e'.1) r) ∧ seen r t = seen r (spread (steps e.1) e.2) := by
  induction flat using List.reverseRecOn generalizing t with
  | nil =>
    obtain rfl := Except.ok.inj h
    exact .inl ⟨by simp, rfl⟩
  | append_singleton flat e ih =>
    obtain ⟨t, ht, ha⟩ := nest_concat_ok h
    by_cases hm : Meets (steps e.1) r
    · exact .inr ⟨flat, e, [], rfl, hm, by simp, seen_of_find? (find?_assign ha) (.refl _) hm⟩
    · rw [seen_assign_of_not_meets ha hm]
      have concat {l : Entries Value} (hl : ∀ e' ∈ l, ¬ Meets (steps e'.1) r) :
          ∀ e' ∈ l ++ [e], ¬ Meets (steps e'.1) r :=
        List.forall_mem_append.mpr ⟨hl, List.forall_mem_singleton.mpr hm⟩
      rcases ih ht with ⟨hn, hs⟩ | ⟨before, d, after, rfl, hd, hn, hs⟩
      · exact .inl ⟨concat hn, hs⟩
      · exact .inr ⟨before, d, after ++ [e], by simp, hd, concat hn, hs⟩

/-- Entries in two orders are nested to the same when those agree that the orders exchange. -/
theorem same_nest {flat' : Entries Value} (hk : ∀ k, k ∈ Entries.keys flat ↔ k ∈ Entries.keys flat')
    (h : nest flat = .ok t) (h' : nest flat' = .ok t')
    (ha : ∀ {before e after before' e' after'}, flat = before ++ e :: after →
      flat' = before' ++ e' :: after' → e'.1 ∉ Entries.keys after → e.1 ∉ Entries.keys after' →
      Compatible e e') : Same t t' := by
  intro r
  have unmet {m m' : Entries Value} (hs : ∀ k, k ∈ Entries.keys m → k ∈ Entries.keys m')
      (hm : ∀ d ∈ m', ¬ Meets (steps d.1) r) : ∀ d ∈ m, ¬ Meets (steps d.1) r := by
    intro d hd
    obtain ⟨d', hd', he⟩ := List.mem_map.mp (hs d.1 (List.mem_map_of_mem hd))
    exact he ▸ hm d' hd'
  rcases seen_nest h r with ⟨hn, hs⟩ | ⟨before, e, after, hf, hm, hn, hs⟩
  · rcases seen_nest h' r with ⟨-, hs'⟩ | ⟨before', e', after', hf', hm', -, -⟩
    · rw [hs, hs']
    · exact absurd hm' (unmet (fun k => (hk k).mpr) hn e' (by simp [hf']))
  · rcases seen_nest h' r with ⟨hn', -⟩ | ⟨before', e', after', hf', hm', hn', hs'⟩
    · exact absurd hm (unmet (fun k => (hk k).mp) hn' e (by simp [hf]))
    · have key {d : String × Value} {m : Entries Value} (hd : Meets (steps d.1) r)
          (hm : ∀ d ∈ m, ¬ Meets (steps d.1) r) : d.1 ∉ Entries.keys m := by
        intro hk
        obtain ⟨d', hd', he⟩ := List.mem_map.mp hk
        exact hm d' hd' (he ▸ hd)
      rw [hs, hs', (ha hf hf' (key hm' hn) (key hm hn')).seen_spread hm hm']

/-- Entries that agree with each other can be nested. -/
theorem exists_nest (h : flat.Pairwise Compatible) : ∃ t, nest flat = .ok t := by
  induction flat using List.reverseRecOn with
  | nil => exact ⟨_, rfl⟩
  | append_singleton flat e ih =>
    obtain ⟨hf, -, he⟩ := List.pairwise_append.mp h
    obtain ⟨t, ht⟩ := ih hf
    rw [nest_concat, ht]
    refine exists_assign_iff.mpr ?_
    rintro ⟨front, back, w, hp, hb, hw, hne⟩
    have hs := seen_route front t
    rw [hw, Option.map_some] at hs
    -- What an earlier entry put on the way is a table, since the two entries are compatible.
    have ht' : seen (route front) t = some (.table []) := by
      rcases seen_nest ht (route front) with ⟨-, hn⟩ | ⟨before, d, after, rfl, hd, -, hn⟩
      · rw [hn] at hs ⊢
        cases front with
        | nil => rfl
        | cons p ps => cases hs
      · have hm : Meets (steps e.1) (route front) := hp ▸ meets_front front back
        rw [hn, (he d (by simp) e (by simp)).seen_spread hd hm, hp, seen_spread_front front _ hb]
    obtain ⟨es, rfl⟩ := Value.bare_eq_table.mp (Option.some.inj (hs.symm.trans ht'))
    exact hne es rfl

end SceneMarkup.Setting
