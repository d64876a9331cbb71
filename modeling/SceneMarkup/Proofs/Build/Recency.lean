import Mathlib.Data.List.Nodup
import Mathlib.Data.List.Perm.Basic
import SceneMarkup.Build.Cache

/-! # Recently used keys

A cache is what its history says: it holds the keys that were used most recently, as many as it has
room for, each with the value it was last given. Histories are given with the latest operation
first, and every history is the end of the next.
-/

namespace SceneMarkup.Build.Cache

variable {κ α : Type} [DecidableEq κ]

/-- What can be done with a cache. -/
inductive Operation (κ α : Type) where
  | get (key : κ)
  | set (key : κ) (value : α)
  | clear
  deriving Repr

/-- What an operation returns, and the cache behind it; `none` when it fails. -/
def perform? (c : Cache κ α) : Operation κ α → Option (Option α × Cache κ α)
  | .get key => some (c.get? key)
  | .set key value => (c.set? key value).map (none, ·)
  | .clear => some (none, c.clear)

/-- The cache behind a history; `none` when one of its operations failed. -/
def behind? (capacity : Int) : List (Operation κ α) → Option (Cache κ α)
  | [] => some (empty capacity)
  | op :: past => (behind? capacity past).bind fun c => (c.perform? op).map Prod.snd

/-- What an operation takes for granted: a key that moves in the order is there, and a key that
makes room is in the table. -/
def Fits (c : Cache κ α) : Operation κ α → Prop
  | .get key => c.has key → key ∈ c.order
  | .set key _ =>
      (c.has key → key ∈ c.order) ∧
        (¬ c.has key → c.capacity ≤ c.size → ∃ oldest ∈ c.order.head?, c.has oldest)
  | .clear => True

/-- The keys used since the last clearing, latest first, when `n` of them are kept. Setting a key
is a use of it, and so is getting a key that is kept. -/
def uses (n : Nat) : List (Operation κ α) → List κ
  | [] => []
  | .get key :: past =>
      if key ∈ (uses n past).eraseDups.take n then key :: uses n past else uses n past
  | .set key _ :: past => key :: uses n past
  | .clear :: _ => []

/-- The `n` keys used most recently, latest first. -/
def recent (n : Nat) (past : List (Operation κ α)) : List κ := (uses n past).eraseDups.take n

/-- The value that a key was last given since the last clearing. -/
def given? (key : κ) : List (Operation κ α) → Option α
  | [] => none
  | .get _ :: past => given? key past
  | .set k value :: past => if k = key then some value else given? key past
  | .clear :: _ => none

def keys (c : Cache κ α) : List κ := c.table.map Prod.fst

structure Mirrors (c : Cache κ α) (past : List (Operation κ α)) : Prop where
  order : c.order = (recent c.capacity.toNat past).reverse
  nodup : c.keys.Nodup
  peek : ∀ key, c.peek? key =
    if key ∈ recent c.capacity.toNat past then given? key past else none

variable {c : Cache κ α} {past : List (Operation κ α)} {n : Nat} {capacity : Int} {key k : κ}
  {value v : α} {xs : List κ} {table : List (κ × α)}

/-! ### Distinct keys in the order of their last use -/

theorem eraseDups_filter (p : κ → Bool) (xs : List κ) :
    (xs.filter p).eraseDups = xs.eraseDups.filter p := by
  cases xs with
  | nil => simp
  | cons x xs =>
    rw [List.eraseDups_cons]
    by_cases hp : p x
    · rw [List.filter_cons_of_pos hp, List.filter_cons_of_pos hp, List.eraseDups_cons,
        ← eraseDups_filter, List.filter_filter, List.filter_filter]
      simp only [Bool.and_comm]
    · rw [List.filter_cons_of_neg hp, List.filter_cons_of_neg hp, ← eraseDups_filter,
        List.filter_filter]
      congr 1
      refine List.filter_congr fun y _ => ?_
      by_cases hy : y = x
      · simp [hy, hp]
      · simp [hy]
termination_by xs.length
decreasing_by all_goals exact Nat.lt_succ_of_le (List.length_filter_le ..)

theorem nodup_eraseDups (xs : List κ) : xs.eraseDups.Nodup := by
  cases xs with
  | nil => simp
  | cons x xs =>
    rw [List.eraseDups_cons, List.nodup_cons]
    exact ⟨by simp, nodup_eraseDups _⟩
termination_by xs.length
decreasing_by exact Nat.lt_succ_of_le (List.length_filter_le ..)

theorem eraseDups_cons_eq (key : κ) (xs : List κ) :
    (key :: xs).eraseDups = key :: xs.eraseDups.erase key := by
  rw [List.eraseDups_cons, eraseDups_filter, (nodup_eraseDups xs).erase_eq_filter]
  rfl

theorem nodup_recent (n : Nat) (past : List (Operation κ α)) : (recent n past).Nodup :=
  (nodup_eraseDups _).sublist (List.take_sublist ..)

theorem mem_uses_of_mem_recent (h : key ∈ recent n past) : key ∈ uses n past :=
  List.mem_eraseDups.mp (List.mem_of_mem_take h)

theorem exists_given?_of_mem_uses (h : key ∈ uses n past) : ∃ v, given? key past = some v := by
  induction past with
  | nil => cases h
  | cons op past ih =>
    cases op with
    | get k =>
      rw [uses] at h
      split at h
      · next hk =>
        rcases List.mem_cons.mp h with rfl | h
        · exact ih (mem_uses_of_mem_recent hk)
        · exact ih h
      · exact ih h
    | set k v =>
      by_cases hk : k = key
      · exact ⟨v, if_pos hk⟩
      · obtain ⟨w, hw⟩ := ih ((List.mem_cons.mp h).resolve_left (Ne.symm hk))
        exact ⟨w, (if_neg hk).trans hw⟩
    | clear => cases h

/-! ### A use among the kept keys -/

theorem take_use_of_mem (h : key ∈ xs.take n) :
    (key :: xs.erase key).take n = key :: (xs.take n).erase key := by
  cases n with
  | zero => cases h
  | succ n =>
    have hx : xs.erase key = (xs.take (n + 1)).erase key ++ xs.drop (n + 1) := by
      rw [← List.erase_append_left _ h, List.take_append_drop]
    have hl : ((xs.take (n + 1)).erase key).length = min (n + 1) xs.length - 1 := by
      rw [List.length_erase_of_mem h, List.length_take]
    rw [List.take_succ_cons, hx]
    rcases Nat.lt_or_ge n xs.length with hn | hn
    · rw [List.take_left' (by omega)]
    · rw [List.drop_eq_nil_of_le (by omega), List.append_nil, List.take_of_length_le (by omega)]

theorem take_use_of_lt (h : key ∉ xs.take n) (hl : (xs.take n).length < n) :
    (key :: xs.erase key).take n = key :: xs.take n := by
  have hx : xs.length < n := by
    rw [List.length_take] at hl
    omega
  have ht : xs.take n = xs := List.take_of_length_le (Nat.le_of_lt hx)
  rw [ht] at h ⊢
  rw [List.erase_of_not_mem h, List.take_of_length_le hx]

theorem take_use_of_full (hn : 0 < n) (h : key ∉ xs.take n) (hl : (xs.take n).length = n) :
    (key :: xs.erase key).take n = key :: (xs.take n).dropLast := by
  obtain ⟨n, rfl⟩ := Nat.exists_eq_add_of_lt hn
  rw [Nat.zero_add] at h hl ⊢
  have hx : xs.erase key = xs.take (n + 1) ++ (xs.drop (n + 1)).erase key := by
    rw [← List.erase_append_right _ h, List.take_append_drop]
  rw [List.take_succ_cons, hx, List.take_append_of_le_length (by omega), List.dropLast_eq_take, hl]
  rfl

theorem recent_set (n : Nat) (key : κ) (value : α) (past : List (Operation κ α)) :
    recent n (.set key value :: past) = (key :: (uses n past).eraseDups.erase key).take n := by
  rw [recent, uses, eraseDups_cons_eq]

theorem recent_get_of_mem (h : key ∈ recent n past) :
    recent n (.get key :: past) = key :: (recent n past).erase key := by
  have hu : uses n (.get key :: past) = key :: uses n past := if_pos h
  rw [recent, hu, eraseDups_cons_eq]
  exact take_use_of_mem h

theorem recent_get_of_not_mem (h : key ∉ recent n past) :
    recent n (.get key :: past) = recent n past := by
  have hu : uses n (.get key :: past) = uses n past := if_neg h
  rw [recent, hu, recent]

/-! ### Tables -/

theorem lookup_cons_eq (e : κ × α) (table : List (κ × α)) (k : κ) :
    (e :: table).lookup k = if k = e.1 then some e.2 else table.lookup k := by
  rw [List.lookup_cons]
  by_cases h : k = e.1
  · simp [h]
  · rw [beq_eq_false_iff_ne.mpr h, if_neg h]

theorem lookup_putIn (key k : κ) (value : α) (table : List (κ × α)) :
    (putIn key value table).lookup k = if k = key then some value else table.lookup k := by
  induction table with
  | nil => rw [putIn, lookup_cons_eq]
  | cons e table ih =>
    rw [putIn]
    split
    · next hk =>
      rw [lookup_cons_eq, lookup_cons_eq, hk]
      by_cases h : k = key <;> simp [h]
    · next hk =>
      rw [lookup_cons_eq, lookup_cons_eq, ih]
      by_cases h : k = e.1
      · simp [h, hk]
      · simp [h]

theorem lookup_filter_ne (table : List (κ × α)) (key k : κ) :
    (table.filter (·.1 ≠ key)).lookup k = if k = key then none else table.lookup k := by
  induction table with
  | nil => simp
  | cons e table ih =>
    rw [lookup_cons_eq]
    by_cases hk : e.1 = key
    · rw [List.filter_cons_of_neg (by simp [hk]), ih, hk]
      by_cases h : k = key <;> simp [h]
    · rw [List.filter_cons_of_pos (by simpa using hk), lookup_cons_eq, ih]
      by_cases h : k = e.1
      · simp [h, hk]
      · simp [h]

theorem lookup_isSome_iff : (table.lookup key).isSome ↔ key ∈ table.map Prod.fst := by
  induction table with
  | nil => simp
  | cons e table ih =>
    rw [lookup_cons_eq, List.map_cons, List.mem_cons, ← ih]
    by_cases h : key = e.1 <;> simp [h]

theorem nodup_putIn (h : (table.map Prod.fst).Nodup) :
    ((putIn key value table).map Prod.fst).Nodup := by
  induction table with
  | nil => simp [putIn]
  | cons e table ih =>
    obtain ⟨k, v⟩ := e
    obtain ⟨hk, ht⟩ := List.nodup_cons.mp h
    rw [putIn]
    split
    · exact h
    · next hne =>
      refine List.nodup_cons.mpr ⟨?_, ih ht⟩
      rw [← lookup_isSome_iff, lookup_putIn, if_neg hne, lookup_isSome_iff]
      exact hk

theorem mem_keys_iff : key ∈ c.keys ↔ c.has key := lookup_isSome_iff.symm

/-! ### What the invariant says -/

theorem Mirrors.has_iff (h : c.Mirrors past) : c.has key ↔ key ∈ recent c.capacity.toNat past := by
  rw [has, h.peek]
  split
  · next hk =>
    obtain ⟨v, hv⟩ := exists_given?_of_mem_uses (mem_uses_of_mem_recent hk)
    simp [hv, hk]
  · next hk => simp [hk]

theorem Mirrors.mem_order_iff (h : c.Mirrors past) : key ∈ c.order ↔ c.has key := by
  rw [h.has_iff, h.order, List.mem_reverse]

theorem Mirrors.nodup_order (h : c.Mirrors past) : c.order.Nodup := by
  rw [h.order]
  exact List.nodup_reverse.mpr (nodup_recent ..)

theorem Mirrors.keys_perm (h : c.Mirrors past) : c.keys.Perm c.order :=
  (List.perm_ext_iff_of_nodup h.nodup h.nodup_order).mpr fun _ =>
    mem_keys_iff.trans h.mem_order_iff.symm

theorem Mirrors.size_eq (h : c.Mirrors past) :
    c.size = (recent c.capacity.toNat past).length := by
  have hl := h.keys_perm.length_eq
  rwa [keys, List.length_map, h.order, List.length_reverse] at hl

theorem Mirrors.size_le (h : c.Mirrors past) : c.size ≤ c.capacity.toNat := by
  rw [h.size_eq, recent]
  exact List.length_take_le ..

/-- In a full cache the order starts with the key used least recently. -/
theorem Mirrors.exists_oldest (h : c.Mirrors past) (hc : 1 ≤ c.capacity)
    (hs : c.capacity ≤ c.size) : ∃ oldest order, c.order = oldest :: order ∧
      recent c.capacity.toNat past = order.reverse ++ [oldest] := by
  have hl := h.size_eq
  cases ho : c.order with
  | nil =>
    have hm := List.reverse_eq_nil_iff.mp (h.order.symm.trans ho)
    rw [hm, List.length_nil] at hl
    omega
  | cons oldest order =>
    refine ⟨oldest, order, rfl, ?_⟩
    rw [← List.reverse_reverse (recent ..), ← h.order, ho, List.reverse_cons]

theorem Mirrors.fits (h : c.Mirrors past) (hc : 1 ≤ c.capacity) (op : Operation κ α) :
    c.Fits op := by
  cases op with
  | get key => exact h.mem_order_iff.mpr
  | set key value =>
    refine ⟨h.mem_order_iff.mpr, fun _ hs => ?_⟩
    obtain ⟨oldest, order, ho, -⟩ := h.exists_oldest hc hs
    exact ⟨oldest, by simp [ho], h.mem_order_iff.mp (by simp [ho])⟩
  | clear => trivial

/-! ### Steps -/

theorem capacity_get? (c : Cache κ α) (key : κ) : (c.get? key).2.capacity = c.capacity := by
  rw [get?]
  split <;> rfl

theorem mirrors_empty (capacity : Int) : (empty capacity : Cache κ α).Mirrors [] :=
  ⟨by simp [empty, recent, uses], by simp [empty, keys],
    fun key => by simp [empty, peek?, recent, uses]⟩

theorem mirrors_clear (c : Cache κ α) (past : List (Operation κ α)) :
    c.clear.Mirrors (.clear :: past) :=
  ⟨by simp [Cache.clear, recent, uses], by simp [Cache.clear, keys],
    fun key => by simp [Cache.clear, peek?, recent, uses]⟩

theorem reverse_touched (h : xs.Nodup) :
    touched xs.reverse key = (key :: xs.erase key).reverse := by
  rw [touched, List.reverse_cons, (List.nodup_reverse.mpr h).erase_eq_filter, h.erase_eq_filter,
    List.filter_reverse]

theorem Mirrors.get (h : c.Mirrors past) (key : κ) : (c.get? key).2.Mirrors (.get key :: past) := by
  by_cases hk : key ∈ recent c.capacity.toNat past
  · obtain ⟨v, hv⟩ := Option.isSome_iff_exists.mp (h.has_iff.mpr hk)
    have hr := recent_get_of_mem hk
    rw [get?, hv]
    refine ⟨?_, h.nodup, fun k => ?_⟩
    · change touched c.order key = _
      rw [h.order, hr, reverse_touched (nodup_recent ..)]
    · change c.peek? k = _
      rw [h.peek, hr]
      congr 1
      by_cases hkk : k = key
      · simp [hkk, hk]
      · simp [List.mem_erase_of_ne hkk, hkk]
  · have hn : c.peek? key = none := Option.not_isSome_iff_eq_none.mp (mt h.has_iff.mp hk)
    have hr := recent_get_of_not_mem hk
    rw [get?, hn]
    exact ⟨by rw [hr]; exact h.order, h.nodup, fun k => by rw [hr]; exact h.peek k⟩

/-- What a table says of the keys when one of them is set and the others are kept or go. -/
theorem peek_set {recent' : List κ} (value : α) (k : κ)
    (hm : ∀ k, k ≠ key → (k ∈ recent' ↔ k ∈ xs)) :
    (if k = key then some value else if k ∈ xs then given? k past else none) =
      if k ∈ key :: recent' then given? k (.set key value :: past) else none := by
  rw [given?]
  by_cases hk : k = key
  · simp [hk]
  · simp [hk, Ne.symm hk, hm k hk]

theorem Mirrors.set_of_kept (h : c.Mirrors past) (value : α)
    (hk : key ∈ recent c.capacity.toNat past) : ∃ c', c.set? key value = some c' ∧
      c'.capacity = c.capacity ∧ c'.Mirrors (.set key value :: past) := by
  rw [set?, if_pos (h.has_iff.mpr hk)]
  have hr := (recent_set c.capacity.toNat key value past).trans (take_use_of_mem hk)
  refine ⟨_, rfl, rfl, ?_, nodup_putIn h.nodup, fun k => ?_⟩
  · change touched c.order key = _
    rw [h.order, hr, reverse_touched (nodup_recent ..), recent]
  · change (putIn key value c.table).lookup k = _
    rw [lookup_putIn, hr, ← peek_set value k fun k hkk => List.mem_erase_of_ne hkk]
    exact congrArg _ (h.peek k)

theorem Mirrors.set_of_room (h : c.Mirrors past) (value : α)
    (hk : key ∉ recent c.capacity.toNat past) (hs : c.size < c.capacity) :
    ∃ c', c.set? key value = some c' ∧ c'.capacity = c.capacity ∧
      c'.Mirrors (.set key value :: past) := by
  rw [set?, if_neg (mt h.has_iff.mp hk), if_neg (Int.not_le.mpr hs)]
  have hl : (recent c.capacity.toNat past).length < c.capacity.toNat := by
    have := h.size_eq
    omega
  have hr := (recent_set c.capacity.toNat key value past).trans (take_use_of_lt hk hl)
  refine ⟨_, rfl, rfl, ?_, nodup_putIn h.nodup, fun k => ?_⟩
  · change c.order ++ [key] = _
    rw [h.order, hr, List.reverse_cons, recent]
  · change (putIn key value c.table).lookup k = _
    rw [lookup_putIn, hr, ← peek_set value k fun k _ => Iff.rfl]
    exact congrArg _ (h.peek k)

theorem Mirrors.set_of_full (h : c.Mirrors past) (hc : 1 ≤ c.capacity) (value : α)
    (hk : key ∉ recent c.capacity.toNat past) (hs : c.capacity ≤ c.size) :
    ∃ c', c.set? key value = some c' ∧ c'.capacity = c.capacity ∧
      c'.Mirrors (.set key value :: past) := by
  obtain ⟨oldest, order, ho, hm⟩ := h.exists_oldest hc hs
  have hl : (recent c.capacity.toNat past).length = c.capacity.toNat := by
    have := h.size_eq
    have := h.size_le
    omega
  have hd : (recent c.capacity.toNat past).dropLast = order.reverse := by
    rw [hm, List.dropLast_concat]
  have hr := (recent_set c.capacity.toNat key value past).trans
    (take_use_of_full (by omega) hk hl)
  rw [← recent, hd] at hr
  rw [set?, if_neg (mt h.has_iff.mp hk), if_pos hs, ho]
  refine ⟨_, rfl, rfl, ?_, nodup_putIn ?_, fun k => ?_⟩
  · change order ++ [key] = _
    rw [hr, List.reverse_cons, List.reverse_reverse]
  · exact h.nodup.sublist (List.filter_sublist.map _)
  · change (putIn key value (c.table.filter (·.1 ≠ oldest))).lookup k = _
    rw [lookup_putIn, lookup_filter_ne, hr, ← peek_set value k fun k _ => Iff.rfl]
    -- What the table says of the oldest key is filtered out, and it is not recent any more.
    have hp := h.peek k
    rw [peek?, hm] at hp
    have ho' : oldest ∉ order.reverse := by
      have := ho ▸ h.nodup_order
      simpa using (List.nodup_cons.mp this).1
    congr 1
    by_cases hko : k = oldest
    · rw [if_pos hko, if_neg (hko ▸ ho')]
    · simpa [hko] using hp

/-- A cache with room for a key takes every key. -/
theorem Mirrors.set (h : c.Mirrors past) (hc : 1 ≤ c.capacity) (key : κ) (value : α) :
    ∃ c', c.set? key value = some c' ∧ c'.capacity = c.capacity ∧
      c'.Mirrors (.set key value :: past) := by
  by_cases hk : key ∈ recent c.capacity.toNat past
  · exact h.set_of_kept value hk
  · by_cases hs : c.capacity ≤ c.size
    · exact h.set_of_full hc value hk hs
    · exact h.set_of_room value hk (Int.not_le.mp hs)

theorem get?_of_some (h : c.peek? key = some v) : c.get? key = (some v, (c.get? key).2) := by
  rw [get?, h]

theorem get?_of_none (h : c.peek? key = none) : c.get? key = (none, c) := by
  rw [get?, h]

theorem peek?_get? (c : Cache κ α) (key k : κ) : (c.get? key).2.peek? k = c.peek? k := by
  rw [get?]
  split <;> rfl

theorem peek?_of_set? {c' : Cache κ α} (h : c.set? key value = some c')
    (hv : c'.peek? k = some v) : (k = key ∧ v = value) ∨ c.peek? k = some v := by
  have hp {table : List (κ × α)} (hl : (putIn key value table).lookup k = some v) :
      (k = key ∧ v = value) ∨ table.lookup k = some v := by
    rw [lookup_putIn] at hl
    split at hl
    · next hk => exact .inl ⟨hk, (Option.some.inj hl).symm⟩
    · exact .inr hl
  rw [set?] at h
  split at h
  · obtain rfl := Option.some.inj h
    exact hp hv
  · split at h
    · split at h
      · cases h
      · next oldest order ho =>
        obtain rfl := Option.some.inj h
        refine (hp hv).imp_right fun hl => ?_
        rw [lookup_filter_ne] at hl
        split at hl
        · cases hl
        · exact hl
    · obtain rfl := Option.some.inj h
      exact hp hv

/-! ### Histories -/

/-- A cache with room for a key stands behind every history, and is what that history says. -/
theorem exists_behind? (hc : 1 ≤ capacity) (past : List (Operation κ α)) :
    ∃ c, behind? capacity past = some c ∧ c.capacity = capacity ∧ c.Mirrors past := by
  induction past with
  | nil => exact ⟨_, rfl, rfl, mirrors_empty capacity⟩
  | cons op past ih =>
    obtain ⟨c, hb, rfl, hm⟩ := ih
    rw [behind?, hb, Option.bind_some]
    cases op with
    | get key => exact ⟨_, rfl, capacity_get? c key, hm.get key⟩
    | set key value =>
      obtain ⟨c', hs, hc', hm'⟩ := hm.set hc key value
      exact ⟨c', by rw [perform?, hs]; rfl, hc', hm'⟩
    | clear => exact ⟨_, rfl, rfl, mirrors_clear c past⟩

/-- No operation on a cache with room for a key fails. The cache holds the keys used most recently
since it was last cleared, as many as it has room for, each with the value it was last given, and
these are what it answers. -/
theorem behind_history (hc : 1 ≤ capacity) (past : List (Operation κ α)) :
    ∃ c, behind? capacity past = some c ∧ (∀ op, c.Fits op ∧ (c.perform? op).isSome) ∧
      c.order.Nodup ∧ c.keys.Nodup ∧ (∀ key, key ∈ c.order ↔ key ∈ c.keys) ∧
      c.size ≤ capacity ∧ c.order = (recent capacity.toNat past).reverse ∧
      (∀ key ∈ recent capacity.toNat past, ∃ v, given? key past = some v ∧
        c.peek? key = some v ∧ (c.get? key).1 = some v) ∧
      ∀ key ∉ recent capacity.toNat past, c.peek? key = none ∧ (c.get? key).1 = none := by
  obtain ⟨c, hb, rfl, hm⟩ := exists_behind? hc past
  have hg (key : κ) : (c.get? key).1 = c.peek? key := by
    rw [get?]
    split <;> next h => exact h.symm
  refine ⟨c, hb, fun op => ⟨hm.fits hc op, ?_⟩, hm.nodup_order, hm.nodup,
    fun key => hm.mem_order_iff.trans mem_keys_iff.symm, ?_, hm.order, fun key hk => ?_,
    fun key hk => ?_⟩
  · cases op with
    | get key => rfl
    | set key value =>
      obtain ⟨c', hs, -⟩ := hm.set hc key value
      rw [perform?, hs]
      rfl
    | clear => rfl
  · have := hm.size_le
    omega
  · obtain ⟨v, hv⟩ := exists_given?_of_mem_uses (mem_uses_of_mem_recent hk)
    have hp : c.peek? key = some v := by rw [hm.peek, if_pos hk, hv]
    exact ⟨v, hv, hp, (hg key).trans hp⟩
  · have hp : c.peek? key = none := by rw [hm.peek, if_neg hk]
    exact ⟨hp, (hg key).trans hp⟩

/-- A key that is got stays, and the one set before it makes room for a third. -/
theorem behind_history_got :
    (1 : Int) ≤ 2 ∧
    ∃ c, behind? 2 [.set "c" 3, .get "a", .set "b" 2, .set "a" 1] = some c ∧
      c.order = ["a", "c"] ∧ c.peek? "a" = some 1 ∧ c.peek? "b" = none := by
  have hr : recent 2 [.set "c" 3, .get "a", .set "b" 2, .set "a" 1] = ["c", "a"] := by decide
  obtain ⟨c, hb, -, -, -, -, -, ho, hk, hn⟩ :=
    behind_history (show (1 : Int) ≤ 2 by decide) [.set "c" 3, .get "a", .set "b" 2, .set "a" 1]
  rw [show (2 : Int).toNat = 2 from rfl, hr] at ho hk hn
  obtain ⟨v, hv, hp, -⟩ := hk "a" (by simp)
  exact ⟨by decide, c, hb, ho, hp.trans (hv.symm.trans rfl), (hn "b" (by simp)).1⟩

end SceneMarkup.Build.Cache
