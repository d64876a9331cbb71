import SceneMarkup.Number.Shortest

/-! # Spelling of floating-point numbers

Two formats write floating-point numbers: messages and JSON. They share the digits and differ in
where positional notation begins and in the width of an exponent.
-/

namespace SceneMarkup.Number

/-- What a format decides: the least and greatest exponents written positionally, and the least
number of digits of an exponent. -/
structure Spelling where
  least : Int
  greatest : Int
  exponentWidth : Nat

/-- Messages write positionally from a ten-thousandth to below ten to the sixteenth. -/
def messageSpelling : Spelling := ⟨-4, 15, 2⟩

/-- JSON writes positionally from a hundred-thousandth to below ten to the sixteenth. -/
def jsonSpelling : Spelling := ⟨-5, 15, 1⟩

def digitChar (n : Nat) : Char := Char.ofNat (48 + n)

/-- Digits with a point after the first `exponent + 1` of them. -/
def positional (digits : List Nat) (exponent : Int) : String :=
  let text := digits.map digitChar
  match exponent with
  | .ofNat e =>
      let whole := text.take (e + 1)
      let fraction := text.drop (e + 1)
      String.ofList (whole ++ List.replicate (e + 1 - whole.length) '0' ++ ['.'] ++
        if fraction.isEmpty then ['0'] else fraction)
  | .negSucc e => String.ofList ('0' :: '.' :: (List.replicate e '0' ++ text))

def scientific (digits : List Nat) (exponent : Int) (width : Nat) : String :=
  let text := digits.map digitChar
  let power := Nat.toDigits 10 exponent.natAbs
  let power := List.replicate (width - power.length) '0' ++ power
  String.ofList (text.take 1 ++ (if text.length > 1 then '.' :: text.drop 1 else []) ++
    ['e', if exponent < 0 then '-' else '+'] ++ power)

def Spelling.finite (s : Spelling) (negative : Bool) (significand : Nat) (exponent : Int) :
    String :=
  let magnitude :=
    if significand = 0 then "0.0"
    else
      let d := Binary64.shortest significand exponent
      if s.least ≤ d.exponent ∧ d.exponent ≤ s.greatest then positional d.trimmed d.exponent
      else scientific d.trimmed d.exponent s.exponentWidth
  if negative then "-" ++ magnitude else magnitude

def Binary64.text : Binary64 → String
  | .nan => "nan"
  | .infinite negative => if negative then "-inf" else "inf"
  | .finite negative m e => messageSpelling.finite negative m e

end SceneMarkup.Number
