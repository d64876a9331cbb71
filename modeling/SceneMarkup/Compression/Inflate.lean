import SceneMarkup.Compression.Code

/-! # Inflation

Deflated data is a sequence of blocks: bytes as they are, or words of two codes, one for bytes and
lengths and one for the distances at which earlier output repeats. What has been read before the
data ends counts.
-/

namespace SceneMarkup.Compression.Inflate

abbrev Output := Array UInt8

/-- What reading leaves: the output so far, and the bits after it or why reading halted. -/
abbrev Progress := Output × Except Halt Bits

section Repeats

def lengthRules : List (Nat × Nat) := [
  (3, 0), (4, 0), (5, 0), (6, 0), (7, 0), (8, 0), (9, 0), (10, 0), (11, 1), (13, 1), (15, 1),
  (17, 1), (19, 2), (23, 2), (27, 2), (31, 2), (35, 3), (43, 3), (51, 3), (59, 3), (67, 4), (83, 4),
  (99, 4), (115, 4), (131, 5), (163, 5), (195, 5), (227, 5), (258, 0)]

def distanceRules : List (Nat × Nat) := [
  (1, 0), (2, 0), (3, 0), (4, 0), (5, 1), (7, 1), (9, 2), (13, 2), (17, 3), (25, 3), (33, 4),
  (49, 4), (65, 5), (97, 5), (129, 6), (193, 6), (257, 7), (385, 7), (513, 8), (769, 8), (1025, 9),
  (1537, 9), (2049, 10), (3073, 10), (4097, 11), (6145, 11), (8193, 12), (12289, 12), (16385, 13),
  (24577, 13)]

/-- Read what is added to a symbol's number; `flaw` if the symbol has none. -/
def extended (rules : List (Nat × Nat)) (flaw : Flaw) (symbol : Option Nat) (bits : Bits) :
    Except Halt (Nat × Bits) :=
  match symbol.bind (rules[·]?) with
  | none => .error (.flaw flaw)
  | some (base, width) => do
      let (more, bits) ← bits.number width
      return (base + more, bits)

def repeatAt (distances : Code) (symbol : Nat) (bits : Bits) :
    Except Halt ((Nat × Nat) × Bits) := do
  let (length, bits) ← extended lengthRules .badLiteralCode (some symbol) bits
  let (symbol, bits) ← distances.next bits
  let (distance, bits) ← extended distanceRules .badDistanceCode symbol bits
  return ((length, distance), bits)

/-- Repeat output from a distance; what is repeated may include what it adds. -/
def copyBack (distance : Nat) : (length : Nat) → Output → Output
  | 0, out => out
  | length + 1, out => copyBack distance length (out.push (out.getD (out.size - distance) 0))

end Repeats

section Blocks

def blockEnd : Nat := 256

def coded (literals distances : Code) : (fuel : Nat) → Output → Bits → Progress
  | 0, out, _ => (out, .error .short)
  | fuel + 1, out, bits =>
      match literals.next bits with
      | .error halt => (out, .error halt)
      | .ok (none, _) => (out, .error (.flaw .badLiteralCode))
      | .ok (some symbol, bits) =>
          if symbol < blockEnd then
            coded literals distances fuel (out.push (UInt8.ofNat symbol)) bits
          else if symbol = blockEnd then (out, .ok bits)
          else match repeatAt distances (symbol - blockEnd - 1) bits with
            | .error halt => (out, .error halt)
            | .ok ((length, distance), bits) =>
                if distance > out.size then (out, .error (.flaw .distanceTooFar))
                else coded literals distances fuel (copyBack distance length out) bits

/-- Take bytes as they are, as many as are there. -/
def copied : (count : Nat) → Output → Bits → Progress
  | 0, out, bits => (out, .ok bits)
  | count + 1, out, bits => match bits.number 8 with
    | .error halt => (out, .error halt)
    | .ok (b, bits) => copied count (out.push (UInt8.ofNat b)) bits

/-- The length of a stored block is written twice, the second time with its bits inverted. -/
def storedLength (bits : Bits) : Except Halt (Nat × Bits) := do
  let (length, bits) ← bits.align.number 16
  let (inverse, bits) ← bits.number 16
  if length + inverse = 65535 then return (length, bits) else throw (.flaw .badStoredLength)

def stored (out : Output) (bits : Bits) : Progress :=
  match storedLength bits with
  | .error halt => (out, .error halt)
  | .ok (length, bits) => copied length out bits

/-- The lengths of the words for bytes and lengths when a block does not give them. -/
def fixedLiterals : Code := .ofLengths
  (List.replicate 144 8 ++ List.replicate 112 9 ++ List.replicate 24 7 ++ List.replicate 8 8)

def fixedDistances : Code := .ofLengths (List.replicate 32 5)

end Blocks

section CodeLengths

/-- The order in which the lengths of the first code are written. -/
def lengthOrder : List Nat := [16, 17, 18, 0, 8, 7, 9, 6, 10, 5, 11, 4, 12, 3, 13, 2, 14, 1, 15]

def triples : (count : Nat) → Bits → Except Halt (List Nat × Bits)
  | 0, bits => .ok ([], bits)
  | count + 1, bits => do
      let (n, bits) ← bits.number 3
      let (ns, bits) ← triples count bits
      return (n :: ns, bits)

def lengthCode (count : Nat) (bits : Bits) : Except Halt (Code × Bits) := do
  let (written, bits) ← triples count bits
  let given := lengthOrder.zip written
  let code := Code.ofLengths ((List.range 19).map fun symbol => (given.lookup symbol).getD 0)
  if code.isWhole then return (code, bits) else throw (.flaw .badCodeLengths)

/-- A run of equal lengths: the length, which for symbol 16 is the one before, and how often. -/
def run (symbol : Nat) (previous : Option Nat) (bits : Bits) :
    Except Halt ((Option Nat × Nat) × Bits) :=
  match symbol with
  | 16 => do
      let (n, bits) ← bits.number 2
      return ((previous, 3 + n), bits)
  | 17 => do
      let (n, bits) ← bits.number 3
      return ((some 0, 3 + n), bits)
  | 18 => do
      let (n, bits) ← bits.number 7
      return ((some 0, 11 + n), bits)
  | length => .ok ((some length, 1), bits)

/-- Read lengths until there are `wanted` of them; those read so far are reversed. -/
def lengths (code : Code) (wanted : Nat) : (fuel : Nat) → List Nat → Bits →
    Except Halt (List Nat × Bits)
  | 0, out, bits => .ok (out.reverse, bits)
  | fuel + 1, out, bits =>
      if out.length ≥ wanted then .ok (out.reverse, bits)
      else do
        let (symbol, bits) ← code.next bits
        let ((length, count), bits) ← run (symbol.getD 0) out.head? bits
        match length with
        | none => throw (.flaw .badRepeat)
        | some n =>
            if out.length + count > wanted then throw (.flaw .badRepeat)
            else lengths code wanted fuel (List.replicate count n ++ out) bits

def codes (bits : Bits) : Except Halt ((Code × Code) × Bits) := do
  let (a, bits) ← bits.number 5
  let (b, bits) ← bits.number 5
  let (c, bits) ← bits.number 4
  let literalCount := a + 257
  let distanceCount := b + 1
  if literalCount > 286 ∨ distanceCount > 30 then throw (.flaw .tooManySymbols)
  let (code, bits) ← lengthCode (c + 4) bits
  let wanted := literalCount + distanceCount
  let (all, bits) ← lengths code wanted wanted [] bits
  if all.getD blockEnd 0 = 0 then throw (.flaw .noBlockEnd)
  let literals := Code.ofLengths (all.take literalCount)
  let distances := Code.ofLengths (all.drop literalCount)
  if !literals.isUsable then throw (.flaw .badLiteralLengths)
  if !distances.isUsable then throw (.flaw .badDistanceLengths)
  return ((literals, distances), bits)

end CodeLengths

section Data

def block (kind : Nat) (out : Output) (bits : Bits) : Progress :=
  match kind with
  | 0 => stored out bits
  | 1 => coded fixedLiterals fixedDistances (bits.length + 1) out bits
  | 2 => match codes bits with
    | .error halt => (out, .error halt)
    | .ok ((literals, distances), bits) => coded literals distances (bits.length + 1) out bits
  | _ => (out, .error (.flaw .badBlockKind))

def blocks : (fuel : Nat) → Output → Bits → Progress
  | 0, out, _ => (out, .error .short)
  | fuel + 1, out, bits =>
      match bits.number 3 with
      | .error halt => (out, .error halt)
      | .ok (head, bits) =>
          let (out, rest) := block (head / 2) out bits
          match rest with
          | .error halt => (out, .error halt)
          | .ok bits => if head % 2 = 1 then (out, .ok bits) else blocks fuel out bits

def inflate (bits : Bits) : Progress := blocks (bits.length + 1) #[] bits

end Data

end SceneMarkup.Compression.Inflate
