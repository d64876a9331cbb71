import Mathlib.Tactic.SplitIfs
import SceneMarkup.Http.Percent
import SceneMarkup.Proofs.Text.Utf8

/-! # Texts with and without escapes

Decoding leaves a text without escapes as it is and makes one with escapes shorter. An escape is
made of ASCII characters, so it lies within one run of them.
-/

namespace SceneMarkup.Http.Percent

open Text.Utf8

variable {c : Char} {cs run runRev xs ys : List Char}

def IsHexDigit (c : Char) : Prop := (Json.hexValue? c).isSome

/-- A percent sign with two hexadecimal digits stands somewhere in the text. -/
def Escaped (cs : List Char) : Prop :=
  ∃ front a b back, cs = front ++ '%' :: a :: b :: back ∧ IsHexDigit a ∧ IsHexDigit b

theorem not_escaped_of_not_mem (h : '%' ∉ cs) : ¬ Escaped cs := by
  rintro ⟨front, a, b, back, rfl, -⟩
  simp at h

theorem toNat_lt_of_isHexDigit (h : IsHexDigit c) : c.toNat < 128 := by
  have le {d : Char} (hd : c ≤ d) (hn : d.toNat < 128) : c.toNat < 128 := Nat.lt_of_le_of_lt hd hn
  rw [IsHexDigit, Json.hexValue?] at h
  split_ifs at h with h₁ h₂ h₃
  · exact le h₁.2 (by decide)
  · exact le h₂.2 (by decide)
  · exact le h₃.2 (by decide)
  · cases h

theorem Escaped.append_right (h : Escaped ys) (xs : List Char) : Escaped (xs ++ ys) := by
  obtain ⟨front, a, b, back, rfl, ha, hb⟩ := h
  exact ⟨xs ++ front, a, b, back, by simp, ha, hb⟩

theorem Escaped.append_left (h : Escaped xs) (ys : List Char) : Escaped (xs ++ ys) := by
  obtain ⟨front, a, b, back, rfl, ha, hb⟩ := h
  exact ⟨front, a, b, back ++ ys, by simp, ha, hb⟩

/-- An escape does not reach across a character that is not ASCII. -/
theorem escaped_append_cons (hc : ¬ c.toNat < 128) (h : Escaped (xs ++ c :: ys)) :
    Escaped xs ∨ Escaped ys := by
  obtain ⟨front, a, b, back, he, ha, hb⟩ := h
  have hpercent : c ≠ '%' := by
    rintro rfl
    exact hc (by decide)
  have hhex : ¬ IsHexDigit c := mt toNat_lt_of_isHexDigit hc
  rcases List.append_eq_append_iff.mp he with ⟨mid, hf, hm⟩ | ⟨mid, hx, hm⟩
  · cases mid with
    | nil => exact absurd (List.cons.inj hm).1 hpercent
    | cons d mid =>
      obtain ⟨-, rfl⟩ := List.cons.inj hm
      exact .inr ⟨mid, a, b, back, rfl, ha, hb⟩
  · match mid, hm with
    | [], hm => exact absurd (List.cons.inj hm).1.symm hpercent
    | [_], hm => exact absurd ((List.cons.inj (List.cons.inj hm).2).1 ▸ ha) hhex
    | [_, _], hm =>
      exact absurd ((List.cons.inj (List.cons.inj (List.cons.inj hm).2).2).1 ▸ hb) hhex
    | _ :: _ :: _ :: mid, hm =>
      simp only [List.cons_append, List.cons.injEq] at hm
      obtain ⟨rfl, rfl, rfl, -⟩ := hm
      exact .inl ⟨front, a, b, mid, hx, ha, hb⟩

/-! ### Runs -/

theorem not_escaped_of_cons (h : ¬ Escaped (c :: cs)) : ¬ Escaped cs :=
  fun hc => h (hc.append_right [c])

theorem Escaped.of_cons (h : Escaped (c :: cs)) :
    (∃ a b back, cs = a :: b :: back ∧ c = '%' ∧ IsHexDigit a ∧ IsHexDigit b) ∨ Escaped cs := by
  obtain ⟨front, a, b, back, he, ha, hb⟩ := h
  cases front with
  | nil =>
    obtain ⟨rfl, rfl⟩ := List.cons.inj he
    exact .inl ⟨a, b, back, rfl, rfl, ha, hb⟩
  | cons d front => exact .inr ⟨front, a, b, back, (List.cons.inj he).2, ha, hb⟩

theorem runBytes_of_not_escaped (h : ¬ Escaped run) :
    runBytes run = run.map fun c => UInt8.ofNat c.toNat := by
  induction run using runBytes.induct with
  | case1 => rw [runBytes]; rfl
  | case2 a b rest high low hb ha ih =>
    exact absurd ⟨[], a, b, rest, rfl, by simp [IsHexDigit, ha], by simp [IsHexDigit, hb]⟩ h
  | case3 a b rest hn ih =>
    rw [runBytes]
    split
    · next high low ha hb => exact absurd hb (hn high low ha)
    · rw [ih (not_escaped_of_cons h)]
      rfl
  | case4 c rest hn ih =>
    rw [runBytes, ih (not_escaped_of_cons h)]
    · rfl
    · exact hn

theorem length_runBytes_le (run : List Char) : (runBytes run).length ≤ run.length := by
  induction run using runBytes.induct with
  | case1 => rw [runBytes]; exact Nat.le_refl 0
  | case2 a b rest high low hb ha ih =>
    rw [runBytes, ha, hb]
    simp only [List.length_cons]
    omega
  | case3 a b rest hn ih =>
    rw [runBytes]
    split
    · next high low ha hb => exact absurd hb (hn high low ha)
    · exact Nat.succ_le_succ ih
  | case4 c rest hn ih =>
    rw [runBytes]
    · exact Nat.succ_le_succ ih
    · exact hn

/-- The three characters of an escape make up one byte. -/
theorem length_runBytes_of_escaped (h : Escaped run) : (runBytes run).length + 2 ≤ run.length := by
  induction run using runBytes.induct with
  | case1 =>
    obtain ⟨front, a, b, back, he, -⟩ := h
    simp at he
  | case2 a b rest high low hb ha ih =>
    have hl := length_runBytes_le rest
    rw [runBytes, ha, hb]
    simp only [List.length_cons]
    omega
  | case3 a b rest hn ih =>
    rcases h.of_cons with ⟨a', b', back, he, -, ha, hb⟩ | h
    · obtain ⟨high, ha⟩ := Option.isSome_iff_exists.mp ha
      obtain ⟨low, hb⟩ := Option.isSome_iff_exists.mp hb
      simp only [List.cons.injEq] at he
      obtain ⟨rfl, rfl, -⟩ := he
      exact absurd hb (hn high low ha)
    · rw [runBytes]
      split
      · next high low ha hb => exact absurd hb (hn high low ha)
      · exact Nat.succ_le_succ (ih h)
  | case4 c rest hn ih =>
    rcases h.of_cons with ⟨a, b, back, he, hc, -⟩ | h
    · exact absurd he (hn a b back hc)
    · rw [runBytes]
      · exact Nat.succ_le_succ (ih h)
      · exact hn

/-! ### Texts -/

theorem decodeRun_of_not_escaped (ha : ∀ c ∈ run, c.toNat < 128) (h : ¬ Escaped run) :
    decodeRun run = run := by
  rw [decodeRun, runBytes_of_not_escaped h, decodeReplacing_ascii ha]

theorem length_decodeRun_le (run : List Char) : (decodeRun run).length ≤ run.length :=
  Nat.le_trans (length_decodeReplacing_le _) (length_runBytes_le run)

theorem length_decodeRun_of_escaped (h : Escaped run) : (decodeRun run).length + 2 ≤ run.length :=
  Nat.le_trans (Nat.add_le_add_right (length_decodeReplacing_le _) 2) (length_runBytes_of_escaped h)

theorem decodeFrom_of_not_escaped (ha : ∀ c ∈ runRev, c.toNat < 128)
    (h : ¬ Escaped (runRev.reverse ++ cs)) : decodeFrom runRev cs = runRev.reverse ++ cs := by
  induction cs generalizing runRev with
  | nil =>
    rw [List.append_nil] at h ⊢
    exact decodeRun_of_not_escaped (by simpa using ha) h
  | cons c cs ih =>
    have hcons : (c :: runRev).reverse ++ cs = runRev.reverse ++ c :: cs := by simp
    rw [decodeFrom]
    split
    · next hc => rw [ih (List.forall_mem_cons.mpr ⟨hc, ha⟩) (hcons ▸ h), hcons]
    · have hr := mt (Escaped.append_left · (c :: cs)) h
      have hs : ¬ Escaped cs := fun hs => h ((hs.append_right [c]).append_right runRev.reverse)
      have hd : decodeFrom [] cs = cs := ih (by simp) hs
      rw [decodeRun_of_not_escaped (by simpa using ha) hr, hd]

theorem length_decodeFrom_le (runRev cs : List Char) :
    (decodeFrom runRev cs).length ≤ runRev.length + cs.length := by
  have hr := length_decodeRun_le runRev.reverse
  rw [List.length_reverse] at hr
  induction cs generalizing runRev with
  | nil => simpa [decodeFrom] using hr
  | cons c cs ih =>
    rw [decodeFrom]
    split
    · have hi := ih (c :: runRev) (by simpa using length_decodeRun_le (c :: runRev).reverse)
      rw [List.length_cons] at hi ⊢
      omega
    · have hi := ih [] (length_decodeRun_le [])
      simp only [List.length_append, List.length_cons, List.length_nil] at hi ⊢
      omega

theorem length_decodeFrom_of_escaped (h : Escaped (runRev.reverse ++ cs)) :
    (decodeFrom runRev cs).length + 2 ≤ runRev.length + cs.length := by
  induction cs generalizing runRev with
  | nil =>
    rw [List.append_nil] at h
    simpa [decodeFrom] using length_decodeRun_of_escaped h
  | cons c cs ih =>
    rw [decodeFrom]
    split
    · have hi : (decodeFrom (c :: runRev) cs).length + 2 ≤ (c :: runRev).length + cs.length :=
        ih (by simpa using h)
      rw [List.length_cons] at hi ⊢
      omega
    · next hc =>
      have hr := length_decodeRun_le runRev.reverse
      have hs := length_decodeFrom_le [] cs
      simp only [List.length_append, List.length_cons, List.length_reverse, List.length_nil]
        at hr hs ⊢
      rcases escaped_append_cons hc h with h | h
      · have hr := length_decodeRun_of_escaped h
        rw [List.length_reverse] at hr
        omega
      · have hi : (decodeFrom [] cs).length + 2 ≤ ([] : List Char).length + cs.length := ih h
        rw [List.length_nil] at hi
        omega

/-- A text without escapes stands for itself. -/
theorem decode_of_not_escaped {s : String} (h : ¬ Escaped s.toList) : decode s = s := by
  rw [decode, decodeFrom_of_not_escaped (by simp) h]
  simp

/-- A text with an escape stands for one that is shorter by two characters at least. -/
theorem length_decode_of_escaped {s : String} (h : Escaped s.toList) :
    (decode s).toList.length + 2 ≤ s.toList.length := by
  have hl : (decodeFrom [] s.toList).length + 2 ≤ ([] : List Char).length + s.toList.length :=
    length_decodeFrom_of_escaped h
  rw [List.length_nil, Nat.zero_add] at hl
  rwa [decode, String.toList_ofList]

end SceneMarkup.Http.Percent
