import SceneMarkup.Compression.Inflate

/-! # Wrapped data

Deflated data stands alone or between a header and checks, in one of two forms. Data that ends
early gives what could be read of it.
-/

namespace SceneMarkup.Digest.Adler32

/-- The greatest prime below the sixteenth power of two. -/
def modulus : Nat := 65521

def absorb (sums : Nat × Nat) (b : UInt8) : Nat × Nat :=
  let low := (sums.1 + b.toNat) % modulus
  (low, (sums.2 + low) % modulus)

def digest (bytes : List UInt8) : Nat :=
  let (low, high) := bytes.foldl absorb (1, 0)
  65536 * high + low

end SceneMarkup.Digest.Adler32

namespace SceneMarkup.Digest.Crc32

/-- The generating polynomial, without its highest term and with its lowest term first. -/
def polynomial : UInt32 := 0xEDB88320

def shift (r : UInt32) : UInt32 :=
  if r &&& 1 = 1 then (r >>> 1) ^^^ polynomial else r >>> 1

def absorb (r : UInt32) (b : UInt8) : UInt32 :=
  (List.range 8).foldl (fun r _ => shift r) (r ^^^ b.toUInt32)

def digest (bytes : List UInt8) : UInt32 := ~~~ bytes.foldl absorb 0xFFFFFFFF

end SceneMarkup.Digest.Crc32

namespace SceneMarkup.Compression

inductive Wrapping where
  | none
  | zlib
  | gzip
  deriving DecidableEq, Repr

namespace Wrapping

def take (count : Nat) (bytes : List UInt8) : Except Halt (List UInt8 × List UInt8) :=
  if bytes.length < count then .error .short else .ok (bytes.take count, bytes.drop count)

def skipText (bytes : List UInt8) : Except Halt (List UInt8) :=
  match bytes.dropWhile (· != 0) with
  | [] => .error .short
  | _ :: rest => .ok rest

def skipField (bytes : List UInt8) : Except Halt (List UInt8) := do
  let (size, bytes) ← take 2 bytes
  return (← take (Bits.ofBytes size).value bytes).2

def skipIf (flags : UInt8) (flag : Nat) (skip : List UInt8 → Except Halt (List UInt8))
    (bytes : List UInt8) : Except Halt (List UInt8) :=
  if flags.toNat.testBit flag then skip bytes else .ok bytes

def gzipHeader (bytes : List UInt8) : Except Halt (List UInt8) := do
  let (mark, rest) ← take 2 bytes
  if mark ≠ [0x1F, 0x8B] then throw (.flaw .badHeader)
  let (method, rest) ← take 2 rest
  let flags := method.getD 1 0
  if method.head? ≠ some 8 then throw (.flaw .unknownMethod)
  if flags ≥ 0x20 then throw (.flaw .unknownFlags)
  let (_, rest) ← take 6 rest
  let rest ← skipIf flags 2 skipField rest
  let rest ← skipIf flags 3 skipText rest
  let rest ← skipIf flags 4 skipText rest
  let header := bytes.take (bytes.length - rest.length)
  skipIf flags 1 (fun rest => do
    let (check, rest) ← take 2 rest
    if (Bits.ofBytes check).value = (Digest.Crc32.digest header).toNat % 65536 then return rest
    else throw (.flaw .headerMismatch)) rest

/-- Pass the header of zlib data. A dictionary that the data needs is not at hand. -/
def zlibHeader (bytes : List UInt8) : Except Halt (List UInt8) := do
  let (header, rest) ← take 2 bytes
  let method := (header.getD 0 0).toNat
  let flags := (header.getD 1 0).toNat
  if (256 * method + flags) % 31 ≠ 0 then throw (.flaw .badHeader)
  if method % 16 ≠ 8 then throw (.flaw .unknownMethod)
  if method / 16 > 7 then throw (.flaw .badWindow)
  if flags.testBit 5 then
    let _ ← take 4 rest
    throw (.flaw .needsDictionary)
  return rest

def header : Wrapping → List UInt8 → Except Halt (List UInt8)
  | none, bytes => .ok bytes
  | zlib, bytes => zlibHeader bytes
  | gzip, bytes => gzipHeader bytes

def fourBytes (n : Nat) : List UInt8 := [n / 16777216, n / 65536, n / 256, n].map UInt8.ofNat

def checks (w : Wrapping) (out : List UInt8) (bits : Bits) : Except Halt Unit := do
  let bits := bits.align
  match w with
  | none => return
  | zlib =>
      let (check, _) ← bits.number 32
      let digest := Bits.ofBytes (fourBytes (Digest.Adler32.digest out))
      if check ≠ digest.value then throw (.flaw .dataMismatch)
  | gzip =>
      let (check, bits) ← bits.number 32
      if check ≠ (Digest.Crc32.digest out).toNat then throw (.flaw .dataMismatch)
      let (length, _) ← bits.number 32
      if length ≠ out.length % 4294967296 then throw (.flaw .lengthMismatch)

/-- The data that a wrapping holds; what follows it does not count. -/
def unwrap (w : Wrapping) (bytes : List UInt8) : Except Flaw (List UInt8) :=
  let (out, halt) : Inflate.Output × Except Halt Unit := match w.header bytes with
    | .error halt => (#[], .error halt)
    | .ok rest =>
        let (out, rest) := Inflate.inflate (Bits.ofBytes rest)
        (out, match rest with
          | .error halt => .error halt
          | .ok bits => w.checks out.toList bits)
  match halt with
  | .error (.flaw f) => .error f
  | _ => .ok out.toList

end Wrapping

end SceneMarkup.Compression
