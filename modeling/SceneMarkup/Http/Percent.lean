import SceneMarkup.Json.Reader
import SceneMarkup.Text.Utf8

/-! # Percent escapes

An escape is a percent sign and two hexadecimal digits; any other percent sign stands for itself.
The bytes of every run of ASCII characters are decoded together, with replacement characters for
what is no text.
-/

namespace SceneMarkup.Http.Percent

def runBytes : List Char → List UInt8
  | [] => []
  | '%' :: a :: b :: rest =>
      match Json.hexValue? a, Json.hexValue? b with
      | some high, some low => UInt8.ofNat (16 * high + low) :: runBytes rest
      | _, _ => UInt8.ofNat '%'.toNat :: runBytes (a :: b :: rest)
  | c :: rest => UInt8.ofNat c.toNat :: runBytes rest
termination_by cs => cs.length

def decodeRun (run : List Char) : List Char := Text.Utf8.decodeReplacing (runBytes run)

/-- Decode a text whose current run of ASCII characters is given in reverse. -/
def decodeFrom (runRev : List Char) : List Char → List Char
  | [] => decodeRun runRev.reverse
  | c :: cs =>
      if c.toNat < 128 then decodeFrom (c :: runRev) cs
      else decodeRun runRev.reverse ++ c :: decodeFrom [] cs

def decode (s : String) : String := String.ofList (decodeFrom [] s.toList)

end SceneMarkup.Http.Percent
