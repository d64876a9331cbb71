import SceneMarkup.Json.Reader
import SceneMarkup.Text.Utf8

/-! # Escapes in addresses

Every part of an address lets some characters stand for themselves. The others are written as
escapes of their bytes; escapes that are there already are kept.
-/

namespace SceneMarkup.Url

open Text

section Escapes

def hexDigit (n : Nat) : Char := Char.ofNat (if n < 10 then 48 + n else 55 + n)

def escapeByte (b : UInt8) : List Char := ['%', hexDigit (b.toNat / 16), hexDigit (b.toNat % 16)]

def escapeChar (stands : Char → Bool) (c : Char) : List Char :=
  if stands c then [c] else (Utf8.encode [c]).flatMap escapeByte

def isHex (c : Char) : Bool := (Json.hexValue? c).isSome

def escape (stands : Char → Bool) : List Char → List Char
  | '%' :: a :: b :: rest =>
      if isHex a && isHex b then '%' :: a :: b :: escape stands rest
      else escapeChar stands '%' ++ escape stands (a :: b :: rest)
  | c :: rest => escapeChar stands c ++ escape stands rest
  | [] => []
termination_by cs => cs.length

end Escapes

section Parts

def isVisible (c : Char) : Bool := 0x20 ≤ c.toNat && c.toNat < 0x7F

def standsInFragment (c : Char) : Bool := isVisible c && !" \"<>`".contains c

def standsInQuery (c : Char) : Bool := isVisible c && !" \"#<>".contains c

def standsInPath (c : Char) : Bool := standsInQuery c && !"?`\x7b\x7d".contains c

def standsInUser (c : Char) : Bool := standsInPath c && !"/;=@[\\]^|".contains c

def standsInHost (c : Char) : Bool :=
  c.isAlphanum || "-._~!$&'()*+,;=\"`\x7b\x7d%|\\".contains c

end Parts

end SceneMarkup.Url
