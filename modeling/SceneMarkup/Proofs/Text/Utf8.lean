import SceneMarkup.Text.Lines
import SceneMarkup.Text.Utf8

/-! # Bytes of texts

Decoding gives no more characters than there are bytes, and gives back ASCII characters from a byte
for each. A text without carriage returns keeps its line ends.
-/

namespace SceneMarkup.Text

namespace Utf8

theorem encode_eq_nil_iff {cs : List Char} : encode cs = [] ↔ cs = [] := by
  refine ⟨fun h => ?_, fun h => by rw [h]; rfl⟩
  cases cs with
  | nil => rfl
  | cons c cs =>
    have hc : String.utf8EncodeChar c = [] := List.flatMap_eq_nil_iff.mp h c List.mem_cons_self
    have hl := congrArg List.length hc
    rw [String.length_utf8EncodeChar] at hl
    exact absurd hl (Nat.ne_of_gt c.utf8Size_pos)

theorem length_le_of_first {lead : UInt8} {rest rest' : List UInt8} {c : Char}
    (h : first lead rest = .ok (c, rest')) : rest'.length ≤ rest.length := by
  rw [first] at h
  split at h
  · cases h
  · dsimp only at h
    split at h
    · obtain ⟨-, rfl⟩ := Prod.mk.inj (Except.ok.inj h)
      rw [List.length_drop]
      exact Nat.sub_le ..
    · cases h

theorem replaceLoop_length_le (out : List Char) (fuel : Nat) (bytes : List UInt8) :
    (replaceLoop out fuel bytes).length ≤ out.length + bytes.length := by
  induction fuel generalizing out bytes with
  | zero =>
    cases bytes with
    | nil => simp [replaceLoop]
    | cons b rest => simp [replaceLoop]
  | succ fuel ih =>
    cases bytes with
    | nil => simp [replaceLoop]
    | cons b rest =>
      rw [replaceLoop]
      split
      · next c rest' hf =>
        have hr := length_le_of_first hf
        have hi := ih (c :: out) rest'
        rw [List.length_cons] at hi ⊢
        omega
      · next n hf =>
        have hi := ih (replacement :: out) (rest.drop (n - 1))
        rw [List.length_drop, List.length_cons] at hi
        rw [List.length_cons]
        omega

theorem length_decodeReplacing_le (bytes : List UInt8) :
    (decodeReplacing bytes).length ≤ bytes.length := by
  have h := replaceLoop_length_le [] bytes.length bytes
  rwa [List.length_nil, Nat.zero_add] at h

theorem first_ascii {c : Char} (h : c.toNat < 128) (rest : List UInt8) :
    first (UInt8.ofNat c.toNat) rest = .ok (c, rest) := by
  have hw : ∀ n < 128, width? (UInt8.ofNat n) = some 1 := by decide
  have hl : ∀ n < 128, leadBits 1 (UInt8.ofNat n) = n := by decide
  have hf : fitting 1 (UInt8.ofNat c.toNat) rest = 0 := by simp [fitting]
  rw [first, hw _ h]
  dsimp only
  rw [hf, hl _ h, List.take_zero, List.foldl_nil, Char.ofNat_toNat]
  rfl

theorem replaceLoop_ascii {cs : List Char} (h : ∀ c ∈ cs, c.toNat < 128) (out : List Char) :
    replaceLoop out cs.length (cs.map fun c => UInt8.ofNat c.toNat) = out.reverse ++ cs := by
  induction cs generalizing out with
  | nil => simp [replaceLoop]
  | cons c cs ih =>
    obtain ⟨hc, hs⟩ := List.forall_mem_cons.mp h
    rw [List.map_cons, List.length_cons, replaceLoop, first_ascii hc]
    refine (ih hs (c :: out)).trans ?_
    simp

theorem decodeReplacing_ascii {cs : List Char} (h : ∀ c ∈ cs, c.toNat < 128) :
    decodeReplacing (cs.map fun c => UInt8.ofNat c.toNat) = cs := by
  rw [decodeReplacing, List.length_map]
  exact replaceLoop_ascii h []

theorem decodeLoop_ascii {cs : List Char} (h : ∀ c ∈ cs, c.toNat < 128) (out : List Char) :
    decodeLoop out cs.length (cs.map fun c => UInt8.ofNat c.toNat) = some (out.reverse ++ cs) := by
  induction cs generalizing out with
  | nil => simp [decodeLoop]
  | cons c cs ih =>
    obtain ⟨hc, hs⟩ := List.forall_mem_cons.mp h
    rw [List.map_cons, List.length_cons, decodeLoop, first_ascii hc]
    refine (ih hs (c :: out)).trans ?_
    simp

theorem decode?_ascii {cs : List Char} (h : ∀ c ∈ cs, c.toNat < 128) :
    decode? (cs.map fun c => UInt8.ofNat c.toNat) = some cs := by
  rw [decode?, List.length_map]
  exact decodeLoop_ascii h []

end Utf8

theorem unifyLineEnds_of_not_mem {cs : List Char} (h : '\r' ∉ cs) (out : List Char) :
    unifyLineEnds out cs = out.reverse ++ cs := by
  induction cs generalizing out with
  | nil => simp [unifyLineEnds]
  | cons c cs ih =>
    rw [List.mem_cons, not_or] at h
    have hc : c ≠ '\r' := Ne.symm h.1
    rw [unifyLineEnds.eq_4 _ _ _ (fun _ he => absurd he hc) hc, ih h.2]
    simp

end SceneMarkup.Text
