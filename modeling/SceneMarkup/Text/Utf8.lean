/-! # UTF-8

Texts are encoded character by character. Decoding is strict, or puts a replacement character in
place of every longest stretch of bytes that only begins a character. In memory a text may also hold
halves of surrogate pairs, which have no bytes.
-/

namespace SceneMarkup.Text

/-- A code point: a character, or half of a surrogate pair that stands alone. -/
inductive Point where
  | char (c : Char)
  | half (code : Fin 0x800)
  deriving DecidableEq, Repr

namespace Point

def isHalf : Point → Bool
  | char _ => false
  | half _ => true

/-- What a half is read like: a noncharacter is no letter, digit, mark or blank either. -/
def character : Point → Char
  | char c => c
  | half _ => Char.ofNat 0xFDD0

end Point

namespace Utf8

def encode (cs : List Char) : List UInt8 := cs.flatMap String.utf8EncodeChar

def isTail (b : UInt8) : Bool := 0x80 ≤ b && b ≤ 0xBF

/-- Whether the second byte may follow the first: no longer form than needed, no surrogates, nothing
beyond the last code point. -/
def isSecond (lead b : UInt8) : Bool :=
  if lead = 0xE0 then 0xA0 ≤ b && b ≤ 0xBF
  else if lead = 0xED then 0x80 ≤ b && b ≤ 0x9F
  else if lead = 0xF0 then 0x90 ≤ b && b ≤ 0xBF
  else if lead = 0xF4 then 0x80 ≤ b && b ≤ 0x8F
  else isTail b

/-- How many bytes a character with this first byte has; none begins with any other byte. -/
def width? (lead : UInt8) : Option Nat :=
  if lead ≤ 0x7F then some 1
  else if 0xC2 ≤ lead && lead ≤ 0xDF then some 2
  else if 0xE0 ≤ lead && lead ≤ 0xEF then some 3
  else if 0xF0 ≤ lead && lead ≤ 0xF4 then some 4
  else none

def leadBits (width : Nat) (lead : UInt8) : Nat :=
  if width = 1 then lead.toNat else lead.toNat % Nat.pow 2 (7 - width)

/-- How many of the bytes after the first fit a character of the given width. -/
def fitting (width : Nat) (lead : UInt8) (bytes : List UInt8) : Nat :=
  match bytes.take (width - 1) with
  | [] => 0
  | b :: rest => if isSecond lead b then 1 + (rest.takeWhile isTail).length else 0

/-- The first character, or the number of bytes at the start that are no character. -/
def first (lead : UInt8) (rest : List UInt8) : Except Nat (Char × List UInt8) :=
  match width? lead with
  | none => .error 1
  | some width =>
      let n := fitting width lead rest
      if n + 1 = width then
        let code := (rest.take n).foldl (fun acc b => 64 * acc + b.toNat % 64) (leadBits width lead)
        .ok (Char.ofNat code, rest.drop n)
      else .error (n + 1)

/-- Decode what is strict UTF-8, and nothing else; `out` holds the characters before, reversed. -/
def decodeLoop (out : List Char) : (fuel : Nat) → List UInt8 → Option (List Char)
  | _, [] => some out.reverse
  | 0, _ => none
  | fuel + 1, b :: rest =>
      match first b rest with
      | .ok (c, rest) => decodeLoop (c :: out) fuel rest
      | .error _ => none

/-- The text that bytes encode, if they are UTF-8. -/
def decode? (bytes : List UInt8) : Option (List Char) := decodeLoop [] bytes.length bytes

def replacement : Char := Char.ofNat 0xFFFD

def replaceLoop (out : List Char) : (fuel : Nat) → List UInt8 → List Char
  | _, [] => out.reverse
  | 0, _ => out.reverse
  | fuel + 1, b :: rest =>
      match first b rest with
      | .ok (c, rest) => replaceLoop (c :: out) fuel rest
      | .error n => replaceLoop (replacement :: out) fuel (rest.drop (n - 1))

/-- The text that bytes encode, with replacement characters where they are not UTF-8. -/
def decodeReplacing (bytes : List UInt8) : List Char := replaceLoop [] bytes.length bytes

end Utf8

end SceneMarkup.Text
