import SceneMarkup.Source.Capture

/-! # Operations on scanners

A scanner can be used step by step: each operation gives an answer and leaves a scanner behind, so
that one may go on after a failure too.
-/

namespace SceneMarkup.Scanner

/-- What can be done with a scanner. -/
inductive Operation where
  | advance (count : Int)
  | hasNext
  | startsWith (text : List Char)
  | tryCapture (t : Token)
  | capture (t : Token) (label : String)
  | skipBlanks
  | scriptBody (terminator : String)
  | binding
  | literal (label : String)
  deriving DecidableEq, Repr

inductive Answer where
  | text (cs : List Char)
  | flag (b : Bool)
  | noMatch
  | stopped (e : Stop)
  deriving DecidableEq, Repr

/-- The text that has been read and the scanner after it, or what stopped reading and the scanner
that is left then. -/
def answered (left : Scanner) : Except Stop (List Char × Scanner) → Answer × Scanner
  | .ok (text, s) => (.text text, s)
  | .error e => (.stopped e, left)

/-- What an operation says, and the scanner it leaves. Raw code that does not end leaves the end of
the source, a literal that does not end the place after its first character. -/
def perform (s : Scanner) : Operation → Answer × Scanner
  | .advance count => (.text (s.skip count.toNat).current?.toList, s.skip count.toNat)
  | .hasNext => (.flag !s.rest.isEmpty, s)
  | .startsWith text => (.flag (text.isPrefixOf s.rest), s)
  | .tryCapture t =>
      match s.take? t with
      | some (text, s') => (.text text, s')
      | none => (.noMatch, s)
  | .capture t label => answered s (s.expect t label)
  | .skipBlanks => (.text s.skipBlanks.current?.toList, s.skipBlanks)
  | .scriptBody terminator => answered s.atEnd (s.expectScriptBody terminator)
  | .binding => answered s.atEnd s.expectBinding
  | .literal label => answered (s.skip 1) (s.literal label)

/-- The scanner behind operations. -/
def performAll (s : Scanner) : List Operation → Scanner
  | [] => s
  | op :: ops => (s.perform op).2.performAll ops

end SceneMarkup.Scanner
