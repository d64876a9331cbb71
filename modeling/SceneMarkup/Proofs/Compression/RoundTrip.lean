import Mathlib
import SceneMarkup.Compression.Wrapping

/-! # Deflated data is read back

Data can be deflated without compressing it, in stored blocks of at most 65535 bytes. What is
inflated from them is the data, and what follows them is left. Deflated data that is inflated, by
whatever means it was made, is read back from both forms in which it is wrapped.
-/

namespace SceneMarkup.Compression

namespace Bits

variable {bits rest : Bits} {n width : Nat}

def ofNat (width n : Nat) : Bits := (List.range width).map n.testBit

@[simp] theorem length_ofNat (width n : Nat) : (ofNat width n).length = width := by simp [ofNat]

theorem ofNat_succ (width n : Nat) : ofNat (width + 1) n = n.testBit 0 :: ofNat width (n / 2) := by
  simp [ofNat, List.range_succ_eq_map, Function.comp_def, Nat.testBit_succ]

theorem value_ofNat (h : n < 2 ^ width) : value (ofNat width n) = n := by
  induction width generalizing n with
  | zero =>
    have hn : n = 0 := by simpa using h
    simp [ofNat, value, hn]
  | succ width ih =>
    have hd : n / 2 < 2 ^ width := by
      rw [Nat.pow_succ] at h
      omega
    rw [ofNat_succ, value, ih hd, Nat.testBit_zero]
    by_cases hn : n % 2 = 1
    · simp only [hn, decide_true, if_true]
      omega
    · simp only [hn, decide_false, Bool.false_eq_true, if_false]
      omega

theorem number_append (bits rest : Bits) :
    number bits.length (bits ++ rest) = .ok (value bits, rest) := by
  simp [number]

theorem number_ofNat (h : n < 2 ^ width) (rest : Bits) :
    number width (ofNat width n ++ rest) = .ok (n, rest) := by
  have := number_append (ofNat width n) rest
  rwa [length_ofNat, value_ofNat h] at this

@[simp] theorem ofBytes_nil : ofBytes [] = [] := rfl

@[simp] theorem ofBytes_cons (b : UInt8) (bytes : List UInt8) :
    ofBytes (b :: bytes) = ofNat 8 b.toNat ++ ofBytes bytes := rfl

theorem ofBytes_append (bytes more : List UInt8) :
    ofBytes (bytes ++ more) = ofBytes bytes ++ ofBytes more := List.flatMap_append

theorem length_ofBytes (bytes : List UInt8) : (ofBytes bytes).length = 8 * bytes.length := by
  induction bytes with
  | nil => rfl
  | cons b bytes ih =>
    rw [ofBytes_cons, List.length_append, length_ofNat, ih, List.length_cons]
    omega

theorem align_append (h : bits.length < 8) (bytes : List UInt8) :
    align (bits ++ ofBytes bytes) = ofBytes bytes := by
  have hl : (bits ++ ofBytes bytes).length % 8 = bits.length := by
    rw [List.length_append, length_ofBytes]
    omega
  rw [align, hl, List.drop_left]

theorem align_ofBytes (bytes : List UInt8) : align (ofBytes bytes) = ofBytes bytes := by
  have h : ([] : Bits).length < 8 := by decide
  exact align_append h bytes

def bytesOf : (width n : Nat) → List UInt8
  | 0, _ => []
  | width + 1, n => UInt8.ofNat n :: bytesOf width (n / 256)

@[simp] theorem length_bytesOf (width n : Nat) : (bytesOf width n).length = width := by
  induction width generalizing n with
  | zero => rfl
  | succ width ih => rw [bytesOf, List.length_cons, ih]

theorem value_append (bits rest : Bits) :
    value (bits ++ rest) = value bits + 2 ^ bits.length * value rest := by
  induction bits with
  | nil => simp [value]
  | cons b bits ih =>
    rw [List.cons_append, value, value, ih, List.length_cons, Nat.pow_succ, Nat.mul_add,
      Nat.mul_comm (2 ^ bits.length) 2, Nat.mul_assoc, Nat.add_assoc]

theorem value_bytesOf (h : n < 256 ^ width) : value (ofBytes (bytesOf width n)) = n := by
  induction width generalizing n with
  | zero =>
    have hn : n = 0 := by simpa using h
    simp [bytesOf, value, hn]
  | succ width ih =>
    have hd : n / 256 < 256 ^ width := by
      rw [Nat.pow_succ] at h
      omega
    have hb : (UInt8.ofNat n).toNat < 2 ^ 8 := (UInt8.ofNat n).toNat_lt
    rw [bytesOf, ofBytes_cons, value_append, value_ofNat hb, length_ofNat, ih hd,
      UInt8.toNat_ofNat']
    omega

theorem number_bytesOf (h : n < 256 ^ width) (rest : Bits) :
    number (8 * width) (ofBytes (bytesOf width n) ++ rest) = .ok (n, rest) := by
  have := number_append (ofBytes (bytesOf width n)) rest
  rwa [length_ofBytes, length_bytesOf, value_bytesOf h] at this

end Bits

namespace Inflate

open Bits

variable {bytes more : List UInt8} {out : Output}

def longestStored : Nat := 65535

/-- A stored block: whether it is the last one, the length of its data twice, and the data. -/
def storedBlock (isLast : Bool) (bytes : List UInt8) : List UInt8 :=
  (if isLast then 1 else 0) ::
    (bytesOf 2 bytes.length ++ bytesOf 2 (longestStored - bytes.length) ++ bytes)

def deflateStored (bytes : List UInt8) : List UInt8 :=
  if bytes.length ≤ longestStored then storedBlock true bytes
  else storedBlock false (bytes.take longestStored) ++ deflateStored (bytes.drop longestStored)
termination_by bytes.length
decreasing_by
  simp only [List.length_drop, longestStored] at *
  omega

theorem copied_ofBytes (out : Output) (bytes : List UInt8) (rest : Bits) :
    copied bytes.length out (ofBytes bytes ++ rest) = (out ++ bytes, .ok rest) := by
  induction bytes generalizing out with
  | nil => simp [copied]
  | cons b bytes ih =>
    have hb : b.toNat < 2 ^ 8 := b.toNat_lt
    rw [List.length_cons, copied, ofBytes_cons, List.append_assoc, number_ofNat hb]
    dsimp only
    rw [ih, UInt8.ofNat_toNat]
    simp

theorem stored_ofBytes (h : bytes.length ≤ longestStored) (out : Output) {bits : Bits}
    (hb : bits.length < 8) (more : List UInt8) :
    stored out (bits ++ ofBytes (bytesOf 2 bytes.length ++
      bytesOf 2 (longestStored - bytes.length) ++ bytes ++ more)) =
        (out ++ bytes, .ok (ofBytes more)) := by
  have hl : bytes.length < 256 ^ 2 := by
    rw [longestStored] at h
    omega
  have hi : longestStored - bytes.length < 256 ^ 2 := by
    rw [longestStored]
    omega
  have hs : bytes.length + (longestStored - bytes.length) = 65535 := Nat.add_sub_cancel' h
  have hlen : storedLength (bits ++ ofBytes (bytesOf 2 bytes.length ++
      bytesOf 2 (longestStored - bytes.length) ++ bytes ++ more)) =
        .ok (bytes.length, ofBytes bytes ++ ofBytes more) := by
    rw [storedLength, align_append hb, ofBytes_append, ofBytes_append, ofBytes_append,
      List.append_assoc, List.append_assoc, number_bytesOf hl]
    dsimp only [bind, Except.bind]
    rw [number_bytesOf hi]
    exact if_pos hs
  rw [stored, hlen]
  exact copied_ofBytes out bytes _

theorem blocks_storedBlock (isLast : Bool) (h : bytes.length ≤ longestStored) (fuel : Nat)
    (out : Output) (more : List UInt8) :
    blocks (fuel + 1) out (ofBytes (storedBlock isLast bytes ++ more)) =
      if isLast then (out ++ bytes, .ok (ofBytes more))
      else blocks fuel (out ++ bytes) (ofBytes more) := by
  have hn : number 3 (ofBytes (storedBlock isLast bytes ++ more)) =
      .ok (isLast.toNat, List.replicate 5 false ++ ofBytes (bytesOf 2 bytes.length ++
        bytesOf 2 (longestStored - bytes.length) ++ bytes ++ more)) := by
    cases isLast <;> rfl
  have hl : (List.replicate 5 false).length < 8 := by decide
  have hs := stored_ofBytes h out hl more
  have hb : block (isLast.toNat / 2) out (List.replicate 5 false ++
      ofBytes (bytesOf 2 bytes.length ++ bytesOf 2 (longestStored - bytes.length) ++ bytes ++
        more)) = (out ++ bytes, .ok (ofBytes more)) := by
    cases isLast <;> exact hs
  rw [blocks, hn]
  dsimp only
  rw [hb]
  cases isLast <;> rfl

theorem blocks_deflateStored (bytes more : List UInt8) (fuel : Nat) (out : Output)
    (h : bytes.length < fuel) :
    blocks fuel out (ofBytes (deflateStored bytes ++ more)) = (out ++ bytes, .ok (ofBytes more)) := by
  fun_induction deflateStored bytes generalizing fuel out with
  | case1 bytes hl =>
    obtain ⟨fuel, rfl⟩ := Nat.exists_eq_add_one_of_ne_zero (Nat.ne_zero_of_lt h)
    exact blocks_storedBlock true hl fuel out more
  | case2 bytes hl ih =>
    obtain ⟨fuel, rfl⟩ := Nat.exists_eq_add_one_of_ne_zero (Nat.ne_zero_of_lt h)
    have ht : (bytes.take longestStored).length ≤ longestStored := List.length_take_le _ _
    have hd : (bytes.drop longestStored).length < fuel := by
      rw [List.length_drop]
      simp only [longestStored] at hl ⊢
      omega
    have hb := blocks_storedBlock false ht fuel out
      (deflateStored (bytes.drop longestStored) ++ more)
    have ho : out ++ bytes.take longestStored ++ bytes.drop longestStored = out ++ bytes :=
      Array.ext' (by simp)
    rw [List.append_assoc, hb, if_neg Bool.false_ne_true, ih _ _ hd, ho]

theorem length_le_deflateStored (bytes : List UInt8) :
    bytes.length ≤ (deflateStored bytes).length := by
  fun_induction deflateStored bytes with
  | case1 bytes hl =>
    simp [storedBlock]
    omega
  | case2 bytes hl ih =>
    simp [storedBlock, longestStored] at ih hl ⊢
    omega

/-- Data is inflated from its stored blocks, and what follows them is left. -/
theorem inflate_deflateStored (bytes more : List UInt8) :
    inflate (ofBytes (deflateStored bytes ++ more)) = (bytes.toArray, .ok (ofBytes more)) := by
  have hl := length_le_deflateStored bytes
  have hf : bytes.length < (ofBytes (deflateStored bytes ++ more)).length + 1 := by
    rw [length_ofBytes, List.length_append]
    omega
  rw [inflate, blocks_deflateStored bytes more _ _ hf]
  simp

end Inflate

namespace Wrapping

open Bits Inflate

variable {data deflated more : List UInt8}

def wrap (w : Wrapping) (data deflated : List UInt8) : List UInt8 :=
  match w with
  | none => deflated
  | zlib => [0x78, 0x01] ++ deflated ++ fourBytes (Digest.Adler32.digest data)
  | gzip => [0x1F, 0x8B, 8, 0, 0, 0, 0, 0, 0, 255] ++ deflated ++
      bytesOf 4 (Digest.Crc32.digest data).toNat ++ bytesOf 4 (data.length % 4294967296)

theorem take_append (front rest : List UInt8) :
    take front.length (front ++ rest) = .ok (front, rest) := by
  simp [take]

theorem zlibHeader_append (rest : List UInt8) : zlibHeader ([0x78, 0x01] ++ rest) = .ok rest := by
  have ht : take 2 ([0x78, 0x01] ++ rest) = .ok ([0x78, 0x01], rest) :=
    take_append [0x78, 0x01] rest
  rw [zlibHeader, ht]
  rfl

theorem gzipHeader_append (rest : List UInt8) :
    gzipHeader ([0x1F, 0x8B, 8, 0, 0, 0, 0, 0, 0, 255] ++ rest) = .ok rest := by
  have hm : take 2 ([0x1F, 0x8B, 8, 0, 0, 0, 0, 0, 0, 255] ++ rest) =
      .ok ([0x1F, 0x8B], [8, 0, 0, 0, 0, 0, 0, 255] ++ rest) := take_append [0x1F, 0x8B] _
  have hf : take 2 ([8, 0, 0, 0, 0, 0, 0, 255] ++ rest) =
      .ok ([8, 0], [0, 0, 0, 0, 0, 255] ++ rest) := take_append [8, 0] _
  have ht : take 6 ([0, 0, 0, 0, 0, 255] ++ rest) = .ok ([0, 0, 0, 0, 0, 255], rest) :=
    take_append [0, 0, 0, 0, 0, 255] rest
  rw [gzipHeader, hm]
  dsimp only [bind, Except.bind]
  rw [if_neg (not_not_intro rfl), hf]
  dsimp only
  rw [if_neg (by decide), if_neg (by decide), ht]
  rfl

theorem checks_zlib (data more : List UInt8) :
    zlib.checks data (ofBytes (fourBytes (Digest.Adler32.digest data) ++ more)) = .ok () := by
  have hn : number 32 (ofBytes (fourBytes (Digest.Adler32.digest data)) ++ ofBytes more) =
      .ok (value (ofBytes (fourBytes (Digest.Adler32.digest data))), ofBytes more) := by
    have hl : (ofBytes (fourBytes (Digest.Adler32.digest data))).length = 32 := by
      rw [length_ofBytes]
      rfl
    exact hl ▸ number_append _ _
  rw [checks, align_ofBytes, ofBytes_append]
  dsimp only [bind, Except.bind]
  rw [hn]
  exact if_neg (not_not_intro rfl)

theorem checks_gzip (data more : List UInt8) :
    gzip.checks data (ofBytes (bytesOf 4 (Digest.Crc32.digest data).toNat ++
      (bytesOf 4 (data.length % 4294967296) ++ more))) = .ok () := by
  have hc : (Digest.Crc32.digest data).toNat < 256 ^ 4 := (Digest.Crc32.digest data).toNat_lt
  have hl : data.length % 4294967296 < 256 ^ 4 := Nat.mod_lt _ (by decide)
  rw [checks, align_ofBytes, ofBytes_append, ofBytes_append]
  dsimp only [bind, Except.bind]
  rw [number_bytesOf hc]
  dsimp only
  rw [if_neg (not_not_intro rfl), number_bytesOf hl]
  exact if_neg (not_not_intro rfl)

theorem header_wrap (w : Wrapping) (data deflated more : List UInt8) :
    ∃ rest, w.header (w.wrap data deflated ++ more) = .ok (deflated ++ rest) ∧
      w.checks data (ofBytes rest) = .ok () := by
  cases w with
  | none => exact ⟨more, rfl, rfl⟩
  | zlib =>
    refine ⟨fourBytes (Digest.Adler32.digest data) ++ more, ?_, checks_zlib data more⟩
    rw [wrap, List.append_assoc, List.append_assoc]
    exact zlibHeader_append _
  | gzip =>
    refine ⟨_, ?_, checks_gzip data more⟩
    rw [wrap, List.append_assoc, List.append_assoc, List.append_assoc]
    exact gzipHeader_append _

/-- Wrapped data that can be inflated is read back, whatever follows it. -/
theorem unwrap_wrap (w : Wrapping)
    (hd : ∀ more, inflate (ofBytes (deflated ++ more)) = (data.toArray, .ok (ofBytes more))) :
    w.unwrap (w.wrap data deflated ++ more) = .ok data := by
  obtain ⟨rest, hh, hc⟩ := header_wrap w data deflated more
  rw [unwrap, hh]
  dsimp only
  rw [hd]
  dsimp only
  rw [hc]

end Wrapping

end SceneMarkup.Compression
