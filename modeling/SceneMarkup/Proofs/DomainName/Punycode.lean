import Mathlib.Data.List.TakeWhile
import Mathlib.Data.Nat.Basic
import Mathlib.Tactic.Ring
import SceneMarkup.DomainName.Punycode
import SceneMarkup.Proofs.Lists

/-! # Punycode is read back

Every text is read back from what is written for it. The insertions are numbered from one to the
next, so the reader knows where each of them goes, and the last of them is the last one of the
greatest characters: without it, the text before it is written.
-/

namespace SceneMarkup.DomainName.Punycode

variable {s s' : Cursor} {text text' cs ds rest : List Char} {c : Char}

/-! ### Digits -/

theorem threshold_le (bias place : Nat) : threshold bias place ≤ 26 := by
  simp only [threshold]
  omega

theorem digit?_digitChar {n : Nat} (h : n < base) : digit? (digitChar n) = some n := by
  have hd : ∀ n ∈ List.range base, digit? (digitChar n) = some n := by decide
  exact hd n (List.mem_range.mpr h)

theorem digitChar_ne_hyphen {n : Nat} (h : n < base) : digitChar n ≠ '-' := by
  have hd : ∀ n ∈ List.range base, digitChar n ≠ '-' := by decide
  exact hd n (List.mem_range.mpr h)

theorem mem_digits {bias place n : Nat} (h : c ∈ digits bias place n) :
    ∃ m < base, c = digitChar m := by
  fun_induction digits bias place n with
  | case1 place n t hn =>
    have ht : t < base := Nat.lt_of_le_of_lt (threshold_le bias place) (by decide)
    exact ⟨n, Nat.lt_trans hn ht, List.mem_singleton.mp h⟩
  | case2 place n t hn ih =>
    have ht : t < base := Nat.lt_of_le_of_lt (threshold_le bias place) (by decide)
    have hm := Nat.mod_lt (n - t) (Nat.sub_pos_of_lt ht)
    rcases List.mem_cons.mp h with rfl | h
    · exact ⟨_, by omega, rfl⟩
    · exact ih h

theorem digits_ne_nil (bias place n : Nat) : digits bias place n ≠ [] := by
  rw [digits]
  split <;> simp

def takeNumber (s : Cursor) (number : Nat) (text rest : List Char) : Option (List Char) :=
  (character? (s.code + (s.place + number) / (text.length + 1))).bind fun c =>
    inserted? (s.past number (s.code + (s.place + number) / (text.length + 1))
      ((s.place + number) % (text.length + 1)) (text.length + 1)) .empty
      (text.insertIdx ((s.place + number) % (text.length + 1)) c) rest

theorem inserted?_digits (s : Cursor) (text rest : List Char) (place n value weight : Nat) :
    inserted? s ⟨value, weight, place⟩ text (digits s.bias place n ++ rest) =
      takeNumber s (value + n * weight) text rest := by
  fun_induction digits s.bias place n generalizing value weight with
  | case1 place n t h =>
    have ht : t < base := Nat.lt_of_le_of_lt (threshold_le s.bias place) (by decide)
    rw [List.singleton_append, inserted?, digit?_digitChar (Nat.lt_trans h ht)]
    exact if_pos h
  | case2 place n t h ih =>
    have ht : t < base := Nat.lt_of_le_of_lt (threshold_le s.bias place) (by decide)
    have hm := Nat.mod_lt (n - t) (Nat.sub_pos_of_lt ht)
    have hn : t + (n - t) % (base - t) + (base - t) * ((n - t) / (base - t)) = n := by
      have := Nat.mod_add_div (n - t) (base - t)
      omega
    rw [List.cons_append, inserted?, digit?_digitChar (by omega)]
    refine (if_neg (Nat.not_lt.mpr (Nat.le_add_right t _))).trans ?_
    rw [ih]
    congr 1
    calc value + (t + (n - t) % (base - t)) * weight +
          (n - t) / (base - t) * (weight * (base - t))
        = value + (t + (n - t) % (base - t) + (base - t) * ((n - t) / (base - t))) * weight := by
          ring
      _ = value + n * weight := by rw [hn]

/-! ### Insertions -/

theorem character?_toNat (c : Char) : character? c.toNat = some c := by
  rw [character?, if_pos (show c.toNat.isValidChar from c.valid), Char.ofNat_toNat]

def numberOf (s : Cursor) (length : Nat) (c : Char) (place : Nat) : Nat :=
  (c.toNat - s.code) * (length + 1) + place - s.place

/-- Insertions lead from a text to another one, each of them behind the one before it. -/
inductive Leads : Cursor → List Char → List (Nat × Nat) → Cursor → List Char → Prop where
  | nil (s : Cursor) (text : List Char) : Leads s text [] s text
  | cons {s s' : Cursor} {text text' : List Char} {c : Char} {place : Nat}
      {ins : List (Nat × Nat)} : s.code ≤ c.toNat → place ≤ text.length →
      (s.code = c.toNat → s.place ≤ place) →
      Leads (s.past (numberOf s text.length c place) c.toNat place (text.length + 1))
        (text.insertIdx place c) ins s' text' →
      Leads s text ((c.toNat, place) :: ins) s' text'

variable {ins : List (Nat × Nat)} {place : Nat}

theorem Leads.concat (h : Leads s text ins s' text') (hc : s'.code ≤ c.toNat)
    (hp : place ≤ text'.length) (hs : s'.code = c.toNat → s'.place ≤ place) :
    Leads s text (ins ++ [(c.toNat, place)])
      (s'.past (numberOf s' text'.length c place) c.toNat place (text'.length + 1))
      (text'.insertIdx place c) := by
  induction h with
  | nil s text => exact .cons hc hp hs (.nil _ _)
  | cons hc' hp' hs' _ ih => exact .cons hc' hp' hs' (ih hc hp hs)

theorem Leads.inserted?_written (h : Leads s text ins s' text') (hs : s.place ≤ text.length) :
    inserted? s .empty text (written s text.length ins) = some text' := by
  induction h with
  | nil s text => rfl
  | @cons s s' text text' c place ins hc hp hsp h ih =>
    have hl : (text.insertIdx place c).length = text.length + 1 :=
      List.length_insertIdx_of_le_length hp c
    have hle : s.place ≤ (c.toNat - s.code) * (text.length + 1) + place := by
      rcases Nat.eq_or_lt_of_le hc with he | hlt
      · exact Nat.le_trans (hsp he) (Nat.le_add_left ..)
      · have := Nat.le_mul_of_pos_left (text.length + 1) (Nat.sub_pos_of_lt hlt)
        omega
    have hn : s.place + numberOf s text.length c place =
        place + (text.length + 1) * (c.toNat - s.code) := by
      rw [numberOf, Nat.add_sub_cancel' hle, Nat.mul_comm, Nat.add_comm]
    have hd :
        s.code + (s.place + numberOf s text.length c place) / (text.length + 1) = c.toNat := by
      rw [hn, Nat.add_mul_div_left _ _ (Nat.succ_pos _),
        Nat.div_eq_of_lt (Nat.lt_succ_of_le hp), Nat.zero_add, Nat.add_sub_cancel' hc]
    have hm : (s.place + numberOf s text.length c place) % (text.length + 1) = place := by
      rw [hn, Nat.add_mul_mod_self_left, Nat.mod_eq_of_lt (Nat.lt_succ_of_le hp)]
    have ih := ih (by rw [hl]; exact Nat.succ_le_succ hp)
    rw [written, Unfinished.empty]
    refine (inserted?_digits s text _ 0 (numberOf s text.length c place) 0 1).trans ?_
    rw [Nat.zero_add, Nat.mul_one, takeNumber, hd, hm, character?_toNat, Option.bind_some]
    rw [hl] at ih
    exact ih

/-! ### The insertions of a text -/

variable {before xs ys : List Char}

theorem insertions_append (before xs ys : List Char) :
    insertions before (xs ++ ys) = insertions before xs ++ insertions (before ++ xs) ys := by
  induction xs generalizing before with
  | nil => simp [insertions]
  | cons x xs ih =>
    have hx : before ++ x :: xs = before ++ [x] ++ xs := by simp
    rw [List.cons_append, insertions, insertions, ih, hx]
    split <;> simp

/-- Greater characters that stand before others do not matter to these. -/
theorem insertions_of_lt (h : ∀ x ∈ xs, x.toNat < c.toNat) (before after : List Char) :
    insertions (before ++ c :: after) xs = insertions (before ++ after) xs := by
  induction xs generalizing after with
  | nil => rfl
  | cons x xs ih =>
    obtain ⟨hx, hs⟩ := List.forall_mem_cons.mp h
    have ih := ih hs (after ++ [x])
    simp only [insertions, List.append_assoc, List.cons_append] at ih ⊢
    rw [ih]
    simp [Nat.not_le.mpr hx]

theorem toNat_of_mem_insertions {e : Nat × Nat} (h : e ∈ insertions before xs) :
    ∃ x ∈ xs, e.1 = x.toNat := by
  induction xs generalizing before with
  | nil => cases h
  | cons x xs ih =>
    rw [insertions] at h
    split at h
    · obtain ⟨y, hy, he⟩ := ih h
      exact ⟨y, List.mem_cons_of_mem _ hy, he⟩
    · rcases List.mem_cons.mp h with rfl | h
      · exact ⟨x, List.mem_cons_self, rfl⟩
      · obtain ⟨y, hy, he⟩ := ih h
        exact ⟨y, List.mem_cons_of_mem _ hy, he⟩

theorem insertions_of_plain (h : ∀ x ∈ xs, x.toNat < firstInserted) (before : List Char) :
    insertions before xs = [] := by
  induction xs generalizing before with
  | nil => rfl
  | cons x xs ih =>
    obtain ⟨hx, hs⟩ := List.forall_mem_cons.mp h
    rw [insertions, ih hs]
    exact if_pos hx

/-- The insertions of a text in the order in which they are made. -/
def sorted (cs : List Char) : List (Nat × Nat) :=
  (insertions [] cs).mergeSort fun a b => a.1 ≤ b.1

theorem sorted_append_cons (hc : firstInserted ≤ c.toNat) (hx : ∀ x ∈ xs, x.toNat ≤ c.toNat)
    (hy : ∀ y ∈ ys, y.toNat < c.toNat) :
    sorted (xs ++ c :: ys) = sorted (xs ++ ys) ++ [(c.toNat, xs.length)] := by
  have hcount : xs.countP (fun x => decide (x.toNat ≤ c.toNat)) = xs.length :=
    List.countP_eq_length.mpr (by simpa using hx)
  have hi : insertions [] (xs ++ c :: ys) =
      insertions [] xs ++ (c.toNat, xs.length) :: insertions xs ys := by
    have hafter := insertions_of_lt hy xs []
    rw [List.append_nil] at hafter
    rw [insertions_append, insertions, List.nil_append, hafter, hcount]
    exact congrArg _ (if_neg (Nat.not_lt.mpr hc))
  rw [sorted, sorted, hi, insertions_append]
  refine mergeSort_append_cons (fun e he => ?_) fun e he => ?_
  · obtain ⟨x, hm, h⟩ := toNat_of_mem_insertions he
    exact h ▸ hx x hm
  · obtain ⟨y, hm, h⟩ := toNat_of_mem_insertions he
    exact h ▸ hy y hm

/-- The last of the greatest characters, unless all are plain. -/
theorem exists_split (cs : List Char) : (∀ x ∈ cs, x.toNat < firstInserted) ∨
    ∃ xs c ys, cs = xs ++ c :: ys ∧ firstInserted ≤ c.toNat ∧ (∀ x ∈ xs, x.toNat ≤ c.toNat) ∧
      ∀ y ∈ ys, y.toNat < c.toNat := by
  induction cs with
  | nil => exact .inl (by simp)
  | cons d cs ih =>
    rcases ih with h | ⟨xs, c, ys, rfl, hc, hx, hy⟩
    · by_cases hd : d.toNat < firstInserted
      · exact .inl (List.forall_mem_cons.mpr ⟨hd, h⟩)
      · exact .inr ⟨[], d, cs, rfl, Nat.not_lt.mp hd, by simp, fun y hm =>
          Nat.lt_of_lt_of_le (h y hm) (Nat.not_lt.mp hd)⟩
    · by_cases hd : d.toNat ≤ c.toNat
      · exact .inr ⟨d :: xs, c, ys, rfl, hc, List.forall_mem_cons.mpr ⟨hd, hx⟩, hy⟩
      · refine .inr ⟨[], d, xs ++ c :: ys, rfl, by omega, by simp, fun y hm => ?_⟩
        rcases List.mem_append.mp hm with hm | hm
        · exact Nat.lt_of_le_of_lt (hx y hm) (Nat.not_le.mp hd)
        · rcases List.mem_cons.mp hm with rfl | hm
          · exact Nat.not_le.mp hd
          · exact Nat.lt_trans (hy y hm) (Nat.not_le.mp hd)

/-- The cursor stands at the start, or behind a character of the text. -/
def StandsIn (s : Cursor) (cs : List Char) : Prop :=
  s = start ∨ ∃ xs c ys, cs = xs ++ c :: ys ∧ s.code = c.toNat ∧ s.place = xs.length + 1

theorem insertIdx_length (xs ys : List Char) (c : Char) :
    (xs ++ ys).insertIdx xs.length c = xs ++ c :: ys := by
  induction xs with
  | nil => rfl
  | cons x xs ih =>
    rw [List.cons_append, List.length_cons, List.insertIdx_succ_cons, ih, List.cons_append]

theorem StandsIn.behind (h : StandsIn s (xs ++ ys)) (hc : firstInserted ≤ c.toNat)
    (hx : ∀ x ∈ xs, x.toNat ≤ c.toNat) (hy : ∀ y ∈ ys, y.toNat < c.toNat) :
    s.code ≤ c.toNat ∧ (s.code = c.toNat → s.place ≤ xs.length) := by
  rcases h with rfl | ⟨front, d, back, he, hcode, hplace⟩
  · exact ⟨hc, fun _ => Nat.zero_le _⟩
  · have hd : d ∈ xs ++ ys := he ▸ List.mem_append_right _ List.mem_cons_self
    rw [hcode, hplace]
    constructor
    · rcases List.mem_append.mp hd with hm | hm
      · exact hx d hm
      · exact Nat.le_of_lt (hy d hm)
    · -- A character like `c` does not stand in `ys`, so `front` ends within `xs`.
      intro hdc
      have hn : d ∉ ys := fun hm => absurd (hy d hm) (hdc ▸ Nat.lt_irrefl _)
      rcases List.append_eq_append_iff.mp he with ⟨more, rfl, rfl⟩ | ⟨more, rfl, hm⟩
      · simp at hn
      · cases more with
        | nil =>
          rw [List.nil_append] at hm
          exact absurd (hm ▸ List.mem_cons_self) hn
        | cons e more =>
          rw [List.length_append, List.length_cons]
          omega

/-- The plain characters of a text lead to it by its insertions. -/
theorem exists_leads (cs : List Char) :
    ∃ s, Leads start (cs.filter (·.toNat < firstInserted)) (sorted cs) s cs ∧ StandsIn s cs := by
  induction hn : cs.length generalizing cs with
  | zero =>
    obtain rfl := List.length_eq_zero_iff.mp hn
    rw [sorted, insertions, List.mergeSort_nil]
    exact ⟨start, .nil _ _, .inl rfl⟩
  | succ n ih =>
    rcases exists_split cs with h | ⟨xs, c, ys, rfl, hc, hx, hy⟩
    · rw [List.filter_eq_self.mpr (by simpa using h), sorted, insertions_of_plain h,
        List.mergeSort_nil]
      exact ⟨start, .nil _ _, .inl rfl⟩
    · obtain ⟨s, hl, hs⟩ := ih (xs ++ ys) (by simp at hn ⊢; omega)
      obtain ⟨hcode, hplace⟩ := hs.behind hc hx hy
      have hlead := hl.concat hcode (by simp) hplace
      have hf : (xs ++ c :: ys).filter (·.toNat < firstInserted) =
          (xs ++ ys).filter (·.toNat < firstInserted) := by
        simp [List.filter_append, Nat.not_lt.mpr hc]
      rw [insertIdx_length] at hlead
      rw [hf, sorted_append_cons hc hx hy]
      exact ⟨_, hlead, .inr ⟨xs, c, ys, rfl, rfl, rfl⟩⟩

/-! ### Reading -/

theorem mem_written {length : Nat} (h : c ∈ written s length ins) :
    ∃ m < base, c = digitChar m := by
  induction ins generalizing s length with
  | nil => cases h
  | cons e ins ih =>
    rw [written] at h
    rcases List.mem_append.mp h with h | h
    · exact mem_digits h
    · exact ih h

theorem hyphen_not_mem_written (s : Cursor) (length : Nat) (ins : List (Nat × Nat)) :
    '-' ∉ written s length ins := by
  intro h
  obtain ⟨m, hm, he⟩ := mem_written h
  exact digitChar_ne_hyphen hm he.symm

theorem decode?_append (h : '-' ∉ ds) (plain : List Char) :
    decode? ((if plain.isEmpty then [] else plain ++ ['-']) ++ ds) =
      inserted? start .empty plain ds := by
  have hd : ∀ d ∈ ds.reverse, (d != '-') = true := by
    intro d hm
    rw [bne_iff_ne]
    rintro rfl
    exact h (List.mem_reverse.mp hm)
  cases plain with
  | nil =>
    rw [List.isEmpty_nil, if_pos rfl, List.nil_append, decode?, List.takeWhile_eq_self_iff.mpr hd,
      List.reverse_reverse, Nat.sub_self, Nat.zero_sub, List.take_zero]
  | cons c cs =>
    have ht : (((c :: cs) ++ ['-'] ++ ds).reverse.takeWhile (· != '-')).reverse = ds := by
      rw [List.reverse_append, List.takeWhile_append_of_pos hd]
      simp
    have hl : (c :: cs ++ ['-'] ++ ds).length - ds.length - 1 = (c :: cs).length := by
      rw [List.length_append, Nat.add_sub_cancel, List.length_append]
      rfl
    rw [List.isEmpty_cons, if_neg Bool.false_ne_true, decode?, ht, hl, List.append_assoc,
      List.take_left]

/-- What is written for a text is read back as the text. -/
theorem decode?_encode (cs : List Char) : decode? (encode cs) = some cs := by
  obtain ⟨s, h, -⟩ := exists_leads cs
  exact (decode?_append (hyphen_not_mem_written _ _ _) _).trans
    (h.inserted?_written (Nat.zero_le _))

/-! ### The form of what is written -/

theorem mem_encode (h : c ∈ encode cs) :
    (c ∈ cs ∧ c.toNat < firstInserted) ∨ c = '-' ∨ ∃ m < base, c = digitChar m := by
  rcases List.mem_append.mp h with h | h
  · split at h
    · cases h
    · rcases List.mem_append.mp h with h | h
      · exact .inl (by simpa using h)
      · exact .inr (.inl (List.mem_singleton.mp h))
  · exact .inr (.inr (mem_written h))

theorem getLast?_encode (h : ∃ x ∈ cs, firstInserted ≤ x.toNat) :
    ∃ m < base, (encode cs).getLast? = some (digitChar m) := by
  rcases exists_split cs with hp | ⟨xs, c, ys, rfl, hc, hx, hy⟩
  · obtain ⟨x, hm, hx⟩ := h
    exact absurd (hp x hm) (Nat.not_lt.mpr hx)
  · have hw : ∀ s length, written s length (sorted (xs ++ c :: ys)) ≠ [] := by
      intro s length
      rw [sorted_append_cons hc hx hy]
      cases sorted (xs ++ ys) <;> simp [written, digits_ne_nil]
    have last {s : Cursor} {length : Nat} : ∃ m < base,
        (written s length (sorted (xs ++ c :: ys))).getLast? = some (digitChar m) := by
      obtain ⟨m, hm, hd⟩ := mem_written (List.getLast_mem (hw s length))
      exact ⟨m, hm, (List.getLast?_eq_some_getLast (hw s length)).trans (congrArg some hd)⟩
    obtain ⟨m, hm, hd⟩ := last
    refine ⟨m, hm, ?_⟩
    rw [encode, List.getLast?_append]
    exact congrArg (Option.or · _) hd

end SceneMarkup.DomainName.Punycode
