/-! # Binary floating-point numbers

A number of 64 bits is kept as its sign, significand and exponent, so that reading, comparing and
printing are exact arithmetic on integers. A quotient is rounded to the nearest number, a tie to
the even significand.
-/

namespace SceneMarkup.Number

def twoTo (k : Nat) : Nat := Nat.pow 2 k

def tenTo (k : Nat) : Nat := Nat.pow 10 k

/-- A finite number is `± significand · 2 ^ exponent`, with a significand below `2 ^ 53`. -/
inductive Binary64 where
  | nan
  | infinite (negative : Bool)
  | finite (negative : Bool) (significand : Nat) (exponent : Int)
  deriving DecidableEq, Repr

namespace Binary64

def minExponent : Int := -1074

def maxExponent : Int := 971

def zero (negative : Bool) : Binary64 := .finite negative 0 minExponent

/-- The quotient rounded to the nearest integer, a tie to the even one. -/
def roundHalfEven (n d : Nat) : Nat :=
  let q := n / d
  let r := n % d
  if 2 * r < d || (2 * r == d && q % 2 == 0) then q else q + 1

/-- The quotient `n / d` in units of `2 ^ e`, as a quotient again. -/
def inUnits (n d : Nat) : Int → Nat × Nat
  | .ofNat k => (n, d * twoTo k)
  | .negSucc k => (n * twoTo (k + 1), d)

def ofRatio (negative : Bool) (n d : Nat) : Binary64 :=
  if n = 0 ∨ d = 0 then zero negative
  else
    let low : Int := (n.log2 : Int) - d.log2 - 53
    let scaled := inUnits n d low
    let e := max (if scaled.1 / scaled.2 < twoTo 53 then low else low + 1) minExponent
    let scaled := inUnits n d e
    let m := roundHalfEven scaled.1 scaled.2
    let (m, e) := if m = twoTo 53 then (twoTo 52, e + 1) else (m, e)
    if e > maxExponent then .infinite negative else .finite negative m e

/-- How many decimal digits a natural number has; zero has one. -/
def digitCount (n : Nat) : Nat := (Nat.toDigits 10 n).length

/-- The number nearest to `± coefficient · 10 ^ exponent`. Far beyond the range no power is
computed. -/
def ofDecimal (negative : Bool) (coefficient : Nat) (exponent : Int) : Binary64 :=
  if coefficient = 0 then zero negative
  else
    let size := (digitCount coefficient : Int) + exponent
    if size > 400 then .infinite negative
    else if size < -400 then zero negative
    else match exponent with
      | .ofNat k => ofRatio negative (coefficient * tenTo k) 1
      | .negSucc k => ofRatio negative coefficient (tenTo (k + 1))

def ratio (significand : Nat) (exponent : Int) : Nat × Nat :=
  match exponent with
  | .ofNat k => (significand * twoTo k, 1)
  | .negSucc k => (significand, twoTo (k + 1))

/-- The integer part, toward zero; infinities and the non-number have none. -/
def truncate? : Binary64 → Option Int
  | .finite negative m e =>
      let r := ratio m e
      let n : Int := r.1 / r.2
      some (if negative then -n else n)
  | _ => none

def equalsInt (x : Binary64) (i : Int) : Bool :=
  match x with
  | .finite negative m e =>
      let r := ratio m e
      (if negative then -(r.1 : Int) else r.1) == i * r.2
  | _ => false

def isZero : Binary64 → Bool
  | .finite _ m _ => m == 0
  | _ => false

end Binary64

end SceneMarkup.Number
