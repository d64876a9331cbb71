import SceneMarkup.Number.Binary64

/-! # Shortest decimals

A number is written with the fewest decimal digits that read back as the same number, and among
those with the digits nearest to it.
-/

namespace SceneMarkup.Number.Binary64

/-- Digits `d₁ d₂ … dₙ` and the exponent of `d₁`: the value is `d₁.d₂ … dₙ · 10 ^ exponent`. -/
structure Decimal where
  digits : List Nat
  exponent : Int

/-- The decimal exponent `p` with `10 ^ (p - 1) ≤ n / d < 10 ^ p`, for a positive quotient. -/
def decimalSize (n d : Nat) : Int :=
  if d ≤ n then digitCount (n / d)
  else
    let k := digitCount (d / n)
    if n * tenTo (k - 1) < d then 1 - (k : Int) else 2 - (k : Int)

def inTens (n d : Nat) : Int → Nat × Nat
  | .ofNat k => (n * tenTo k, d)
  | .negSucc k => (n, d * tenTo (k + 1))

/-- The decimals with `count` digits next to a value, as multiples of the grid's unit, that lie
among the reals rounding to it: the nearer of two, and of two equally near ones the even one. All
four numbers are in units of a quarter of the last place. -/
def onGrid? (low value high : Nat) (ends : Bool) (unit : Nat) : Option Nat :=
  let below := value / unit
  let above := below + 1
  let inside (k : Nat) : Bool :=
    (low < k * unit && k * unit < high) || (ends && (k * unit == low || k * unit == high))
  match inside below && below != 0, inside above with
  | true, true =>
      let down := value - below * unit
      let up := above * unit - value
      if down < up || (down == up && below % 2 == 0) then some below else some above
  | true, false => some below
  | false, true => some above
  | false, false => none

/-- The first grid, from the coarsest, on which a decimal reads back. -/
def firstGrid (low value high : Nat) (ends : Bool) (unitOf : Nat → Nat) :
    (tries count : Nat) → Option (Nat × Nat)
  | 0, _ => none
  | tries + 1, count =>
      match onGrid? low value high ends (unitOf count) with
      | some k => some (k, count)
      | none => firstGrid low value high ends unitOf tries (count + 1)

def shortest (significand : Nat) (exponent : Int) : Decimal :=
  let r := ratio significand exponent
  let size := decimalSize r.1 r.2
  let low := if significand = twoTo 52 ∧ exponent > minExponent then 4 * significand - 1
    else 4 * significand - 2
  -- in units of `2 ^ (exponent - 2) · 10 ^ (size - 17)`, cleared of denominators
  let two := ratio 1 (exponent - 2)
  let ten := inTens 1 1 (size - 17)
  let scale := two.1 * ten.2
  let grid := two.2 * ten.1
  match firstGrid (low * scale) (4 * significand * scale) ((4 * significand + 2) * scale)
      (significand % 2 == 0) (fun count => grid * tenTo (17 - count)) 17 1 with
  | some (k, count) =>
      let digits := Nat.toDigits 10 k
      ⟨digits.map (·.toNat - 48), size - count + digits.length - 1⟩
  | none => ⟨[], 0⟩

def Decimal.trimmed (d : Decimal) : List Nat :=
  match (d.digits.reverse.dropWhile (· == 0)).reverse with
  | [] => [0]
  | ds => ds

end SceneMarkup.Number.Binary64
