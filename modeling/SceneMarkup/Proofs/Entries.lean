import Mathlib.Data.List.Induction
import Mathlib.Data.List.Nodup
import Mathlib.Data.List.Perm.Subperm
import SceneMarkup.Entries

/-! # Keys of ordered maps

A new key goes to the end and an old one stays where it is, so the keys of a map that was built by
putting entries are distinct and stand in the order in which they were first put.
-/

namespace SceneMarkup.Entries

variable {α β : Type} {m n : Entries α} {key : String} {value : α}

def keys (m : Entries α) : List String := m.map Prod.fst

@[simp] theorem keys_nil : keys ([] : Entries α) = [] := rfl

@[simp] theorem keys_cons (e : String × α) (m : Entries α) : keys (e :: m) = e.1 :: keys m := rfl

@[simp] theorem keys_append (m n : Entries α) : keys (m ++ n) = keys m ++ keys n :=
  List.map_append

theorem has_iff : m.has key ↔ key ∈ keys m := by
  induction m with
  | nil => simp [has, get?]
  | cons e m ih =>
    obtain ⟨k, v⟩ := e
    by_cases h : k = key
    · simp [has, get?, h]
    · simpa [has, get?, h, Ne.symm h] using ih

theorem get?_eq_none_iff : m.get? key = none ↔ key ∉ keys m := by
  rw [← Option.not_isSome_iff_eq_none, ← has_iff]
  rfl

theorem get?_append (m n : Entries α) (key : String) :
    get? (m ++ n) key = (m.get? key).or (n.get? key) := by
  induction m with
  | nil => rfl
  | cons e m ih =>
    rw [List.cons_append, get?, get?]
    split
    · rfl
    · exact ih

theorem get?_map (f : α → β) (m : Entries α) (key : String) :
    get? (m.map fun e => (e.1, f e.2)) key = (m.get? key).map f := by
  induction m with
  | nil => rfl
  | cons e m ih =>
    rw [List.map_cons, get?, get?]
    split
    · rfl
    · exact ih

theorem mem_of_get? (h : m.get? key = some value) : (key, value) ∈ m := by
  induction m with
  | nil => cases h
  | cons e m ih =>
    rw [get?] at h
    split at h
    · next hk =>
      rw [← hk, ← Option.some.inj h]
      exact List.mem_cons_self
    · exact List.mem_cons_of_mem e (ih h)

theorem get?_of_mem (h : (keys m).Nodup) (hm : (key, value) ∈ m) : m.get? key = some value := by
  induction m with
  | nil => cases hm
  | cons e m ih =>
    obtain ⟨hk, hs⟩ := List.nodup_cons.mp h
    rw [get?]
    rcases List.mem_cons.mp hm with rfl | hm
    · exact if_pos rfl
    · have hne : e.1 ≠ key := by
        rintro rfl
        exact hk (List.mem_map.mpr ⟨_, hm, rfl⟩)
      rw [if_neg hne, ih hs hm]

theorem agrees_iff_of_mem [DecidableEq α] :
    m.agrees (· == ·) n ↔ m.length = n.length ∧ ∀ e ∈ m, n.get? e.1 = some e.2 := by
  rw [agrees, Bool.and_eq_true, beq_iff_eq, List.all_eq_true]
  refine and_congr_right fun _ => forall₂_congr fun e _ => ?_
  split
  · next v hv => rw [hv, beq_iff_eq, Option.some_inj, eq_comm]
  · next hv => simp [hv]

theorem agrees_iff [DecidableEq α] (hm : (keys m).Nodup) (hn : (keys n).Nodup) :
    m.agrees (· == ·) n ↔ ∀ key, m.get? key = n.get? key := by
  rw [agrees_iff_of_mem]
  constructor
  · rintro ⟨hl, h⟩ key
    cases hv : m.get? key with
    | some value => exact (h _ (mem_of_get? hv)).symm
    | none =>
      have hsub : keys m ⊆ keys n := by
        intro k hk
        obtain ⟨value, hv⟩ := Option.isSome_iff_exists.mp (has_iff.mpr hk)
        exact has_iff.mp (Option.isSome_iff_exists.mpr ⟨value, h _ (mem_of_get? hv)⟩)
      have hp : (keys m).Perm (keys n) :=
        (List.subperm_of_subset hm hsub).perm_of_length_le (by simp [keys, hl])
      exact (get?_eq_none_iff.mpr (mt hp.mem_iff.mpr (get?_eq_none_iff.mp hv))).symm
  · intro h
    have hp : (keys m).Perm (keys n) :=
      (List.perm_ext_iff_of_nodup hm hn).mpr fun k => by
        rw [← has_iff, ← has_iff, has, has, h]
    exact ⟨by simpa [keys] using hp.length_eq, fun e he => (h e.1).symm.trans (get?_of_mem hm he)⟩

theorem put_of_not_mem (h : key ∉ keys m) : m.put key value = m ++ [(key, value)] := by
  induction m with
  | nil => rfl
  | cons e m ih =>
    obtain ⟨h₁, h₂⟩ := not_or.mp (mt List.mem_cons.mpr h)
    rw [put, if_neg (Ne.symm h₁), ih h₂, List.cons_append]

theorem put_of_get? (h : m.get? key = some value) : m.put key value = m := by
  induction m with
  | nil => cases h
  | cons e m ih =>
    rw [get?] at h
    rw [put]
    split at h
    · next hk =>
      rw [if_pos hk, ← Option.some.inj h]
    · next hk => rw [if_neg hk, ih h]

theorem erase_of_not_mem (h : key ∉ keys m) : m.erase key = m := by
  rw [erase, List.filter_eq_self]
  intro e he
  simp only [bne_iff_ne, ne_eq]
  rintro rfl
  exact h (List.mem_map_of_mem he)

theorem keys_put_of_mem (h : key ∈ keys m) : keys (m.put key value) = keys m := by
  induction m with
  | nil => cases h
  | cons e m ih =>
    by_cases hk : e.1 = key
    · simp [put, hk]
    · have := ih ((List.mem_cons.mp h).resolve_left (Ne.symm hk))
      simp [put, hk, this]

theorem nodup_keys_put (h : (keys m).Nodup) : (keys (m.put key value)).Nodup := by
  by_cases hk : key ∈ keys m
  · rwa [keys_put_of_mem hk]
  · rw [put_of_not_mem hk, keys_append]
    exact h.append (List.nodup_singleton _) (by simpa using hk)

theorem mem_keys_put {k : String} : k ∈ keys (m.put key value) ↔ k ∈ keys m ∨ k = key := by
  by_cases hk : key ∈ keys m
  · rw [keys_put_of_mem hk]
    exact ⟨.inl, fun h => h.elim id (· ▸ hk)⟩
  · simp [put_of_not_mem hk]

theorem mem_of_mem_put {e : String × α} (h : e ∈ m.put key value) : e ∈ m ∨ e = (key, value) := by
  induction m with
  | nil => exact .inr (List.mem_singleton.mp h)
  | cons d m ih =>
    rw [put] at h
    split at h
    · next hk =>
      rcases List.mem_cons.mp h with rfl | h
      · exact .inr (by rw [hk])
      · exact .inl (List.mem_cons_of_mem d h)
    · rcases List.mem_cons.mp h with rfl | h
      · exact .inl List.mem_cons_self
      · exact (ih h).imp_left (List.mem_cons_of_mem d)

theorem ofList_concat (m : Entries α) (e : String × α) :
    ofList (m ++ [e]) = (ofList m).put e.1 e.2 := by
  simp [ofList, update]

theorem mem_keys_ofList {k : String} : k ∈ keys (ofList m) ↔ k ∈ keys m := by
  induction m using List.reverseRecOn with
  | nil => simp [ofList, update]
  | append_singleton m e ih => rw [ofList_concat, mem_keys_put, ih]; simp

theorem nodup_keys_ofList (m : Entries α) : (keys (ofList m)).Nodup := by
  induction m using List.reverseRecOn with
  | nil => simp [ofList, update]
  | append_singleton m e ih => exact ofList_concat m e ▸ nodup_keys_put ih

/-- The keys of a map stand in the order in which they were first put. -/
theorem keys_ofList (m : Entries α) : keys (ofList m) = (keys m).eraseDups := by
  induction m using List.reverseRecOn with
  | nil => rfl
  | append_singleton m e ih =>
    rw [ofList_concat, keys_append, List.eraseDups_append, ← ih]
    by_cases hk : e.1 ∈ keys m
    · rw [keys_put_of_mem (mem_keys_ofList.mpr hk)]
      simp [List.removeAll, hk]
    · rw [put_of_not_mem (mt mem_keys_ofList.mp hk), keys_append]
      simp [List.removeAll, hk, List.eraseDups_cons]

theorem mem_of_mem_ofList {e : String × α} (h : e ∈ ofList m) : e ∈ m := by
  induction m using List.reverseRecOn with
  | nil => exact h
  | append_singleton m d ih =>
    rw [ofList_concat] at h
    rcases mem_of_mem_put h with h | rfl
    · exact List.mem_append_left _ (ih h)
    · simp

theorem exists_last_of_mem_ofList {e : String × α} (h : e ∈ ofList m) :
    ∃ front back, m = front ++ e :: back ∧ e.1 ∉ keys back := by
  induction m using List.reverseRecOn with
  | nil => cases h
  | append_singleton m d ih =>
    have hg := get?_of_mem (nodup_keys_ofList _) h
    rw [ofList_concat] at h hg
    rw [get?_put] at hg
    by_cases hk : d.1 = e.1
    · rw [if_pos hk] at hg
      exact ⟨m, [], by rw [Prod.ext hk (Option.some.inj hg)], by simp⟩
    · rcases mem_of_mem_put h with h | rfl
      · obtain ⟨front, back, rfl, hb⟩ := ih h
        exact ⟨front, back ++ [d], by simp, by simp [hb, Ne.symm hk]⟩
      · exact absurd rfl hk

theorem get?_ofList_append {back : Entries α} (front : Entries α) (h : key ∉ keys back) :
    (ofList (front ++ (key, value) :: back)).get? key = some value := by
  induction back using List.reverseRecOn with
  | nil =>
    rw [ofList_concat, get?_put]
    exact if_pos rfl
  | append_singleton back e ih =>
    rw [keys_append, List.mem_append, not_or] at h
    obtain ⟨hb, he⟩ := h
    have he : ¬ e.1 = key := fun hk => he (hk ▸ List.mem_cons_self)
    rw [← List.cons_append, ← List.append_assoc, ofList_concat, get?_put, if_neg he, ih hb]

/-- A map holds what was put under a key last, and nothing else. -/
theorem mem_ofList_iff {e : String × α} :
    e ∈ ofList m ↔ ∃ front back, m = front ++ e :: back ∧ e.1 ∉ keys back := by
  constructor
  · exact exists_last_of_mem_ofList
  · rintro ⟨front, back, rfl, hb⟩
    exact mem_of_get? (get?_ofList_append front hb)

theorem exists_front_of_keys_ofList {j k : String} {ks ls : List String}
    (h : keys (ofList m) = ks ++ k :: ls) (hj : j ∈ ks) :
    ∃ front back, m = front ++ back ∧ j ∈ keys front ∧ k ∉ keys front := by
  induction m using List.reverseRecOn generalizing ls with
  | nil =>
    obtain ⟨rfl, -⟩ := List.append_eq_nil_iff.mp h.symm
    cases hj
  | append_singleton m d ih =>
    have extend {ls' : List String} (h' : keys (ofList m) = ks ++ k :: ls') :
        ∃ front back, m ++ [d] = front ++ back ∧ j ∈ keys front ∧ k ∉ keys front := by
      obtain ⟨front, back, hm, hf⟩ := ih h'
      exact ⟨front, back ++ [d], by simp [hm], hf⟩
    rw [ofList_concat] at h
    by_cases hd : d.1 ∈ keys (ofList m)
    · exact extend (keys_put_of_mem hd ▸ h)
    · rw [put_of_not_mem hd, keys_append] at h
      rcases List.eq_nil_or_concat ls with rfl | ⟨ls', l, rfl⟩
      · obtain ⟨hks, hk⟩ := List.append_inj' h rfl
        obtain rfl : d.1 = k := List.head_eq_of_cons_eq hk
        exact ⟨m, [d], rfl, mem_keys_ofList.mp (hks ▸ hj), mt mem_keys_ofList.mpr hd⟩
      · rw [List.concat_eq_append, ← List.cons_append, ← List.append_assoc] at h
        exact extend (List.append_inj' h rfl).1

theorem ofList_of_nodup (h : (keys m).Nodup) : ofList m = m := by
  induction m using List.reverseRecOn with
  | nil => rfl
  | append_singleton m e ih =>
    rw [keys_append] at h
    have hk : e.1 ∉ keys m := fun hm => List.disjoint_of_nodup_append h hm (by simp)
    rw [ofList_concat, ih (List.nodup_append.mp h).1, put_of_not_mem hk]

/-- Nothing is lost in a map exactly when no key is given twice. -/
theorem perm_ofList_iff : (ofList m).Perm m ↔ (keys m).Nodup := by
  constructor
  · intro h
    exact (h.map Prod.fst).nodup_iff.mp (nodup_keys_ofList m)
  · intro h
    rw [ofList_of_nodup h]

end SceneMarkup.Entries
