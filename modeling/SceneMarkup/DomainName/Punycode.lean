import SceneMarkup.Text.Utf8

/-! # Punycode

A text is written as its ASCII characters and a list of insertions that puts in the others, smallest
first. An insertion is numbered from the one before it, all places of a character before all places
of the next, and the numbers are written in digits whose weights follow the size of the last number.
-/

namespace SceneMarkup.DomainName.Punycode

open Text

section Digits

def base : Nat := 36

/-- A number ends with a digit below the threshold of its place. -/
def threshold (bias place : Nat) : Nat := min 26 (max 1 (base * (place + 1) - bias))

theorem threshold_pos (bias place : Nat) : 0 < threshold bias place := by
  simp only [threshold]; omega

def digitChar (n : Nat) : Char := Char.ofNat (if n < 26 then 97 + n else 22 + n)

def digit? (c : Char) : Option Nat :=
  if c.isLower then some (c.toNat - 97)
  else if c.isUpper then some (c.toNat - 65)
  else if c.isDigit then some (c.toNat - 22)
  else none

def digits (bias place n : Nat) : List Char :=
  let t := threshold bias place
  if n < t then [digitChar n]
  else digitChar (t + (n - t) % (base - t)) :: digits bias (place + 1) ((n - t) / (base - t))
termination_by n
decreasing_by
  have := threshold_pos bias place
  exact Nat.lt_of_le_of_lt (Nat.div_le_self ..) (by omega)

/-- Divide by 35 until the result is at most 455; also count the divisions. -/
def shrink (n divisions : Nat) : Nat × Nat :=
  if n > 455 then shrink (n / 35) (divisions + 1) else (n, divisions)
termination_by n
decreasing_by omega

def adapted (isFirst : Bool) (number length : Nat) : Nat :=
  let scaled := number / (if isFirst then 700 else 2)
  let (n, divisions) := shrink (scaled + scaled / length) 0
  base * divisions + base * n / (n + 38)

end Digits

section Insertions

def firstInserted : Nat := 128

/-- The insertion that comes next by number: a character and a place in a text of some length. -/
structure Cursor where
  code : Nat
  place : Nat
  bias : Nat
  isFirst : Bool

def start : Cursor := ⟨firstInserted, 0, 72, true⟩

/-- Go on behind an insertion, given its number and the length of the text that it leaves. -/
def Cursor.past (s : Cursor) (number code place length : Nat) : Cursor :=
  ⟨code, place + 1, adapted s.isFirst number length, false⟩

/-- The characters to insert, each with the place it takes among the smaller ones and those of its
own kind before it. -/
def insertions (before : List Char) : List Char → List (Nat × Nat)
  | [] => []
  | c :: rest =>
      let later := insertions (before ++ [c]) rest
      if c.toNat < firstInserted then later
      else (c.toNat, before.countP (·.toNat ≤ c.toNat)) :: later

def written (s : Cursor) (length : Nat) : List (Nat × Nat) → List Char
  | [] => []
  | (code, place) :: rest =>
      let number := (code - s.code) * (length + 1) + place - s.place
      digits s.bias 0 number ++
        written (s.past number code place (length + 1)) (length + 1) rest

end Insertions

/-- Write a text in ASCII. -/
def encode (cs : List Char) : List Char :=
  let plain := cs.filter (·.toNat < firstInserted)
  let inserted := (insertions [] cs).mergeSort fun a b => a.1 ≤ b.1
  (if plain.isEmpty then [] else plain ++ ['-']) ++ written start plain.length inserted

section Reading

/-- A number that is being read: the value of the digits so far, the weight of the next digit and
its place. -/
structure Unfinished where
  value : Nat
  weight : Nat
  place : Nat

def Unfinished.empty : Unfinished := ⟨0, 1, 0⟩

/-- The character of a code; codes that are kept for pairs stand for no character. -/
def character? (code : Nat) : Option Char :=
  if code.isValidChar then some (Char.ofNat code)
  else if code < 0x110000 then some Utf8.replacement
  else none

def inserted? (s : Cursor) (n : Unfinished) (text : List Char) : List Char → Option (List Char)
  | [] => if n.place = 0 then some text else none
  | d :: rest => do
      let digit ← digit? d
      let t := threshold s.bias n.place
      let value := n.value + digit * n.weight
      if digit < t then
        let length := text.length + 1
        let total := s.place + value
        let code := s.code + total / length
        let place := total % length
        let c ← character? code
        inserted? (s.past value code place length) .empty (text.insertIdx place c) rest
      else inserted? s ⟨value, n.weight * (base - t), n.place + 1⟩ text rest

/-- Read a text written in ASCII. The digits stand behind the last hyphen. -/
def decode? (cs : List Char) : Option (List Char) :=
  let digits := (cs.reverse.takeWhile (· != '-')).reverse
  inserted? start .empty (cs.take (cs.length - digits.length - 1)) digits

end Reading

end SceneMarkup.DomainName.Punycode
