/-! # Bits and prefix codes

Compressed data is read bit by bit, from the least bit of each byte upward. Reading halts where the
data ends or contradicts its format. A code is given by the lengths of its words: shorter words come
first, and words of one length count upward in the order of their symbols.
-/

namespace SceneMarkup.Compression

/-! ### Bits -/

inductive Flaw where
  | badHeader
  | unknownMethod
  | badWindow
  | unknownFlags
  | headerMismatch
  | needsDictionary
  | badBlockKind
  | badStoredLength
  | tooManySymbols
  | badCodeLengths
  | badRepeat
  | noBlockEnd
  | badLiteralLengths
  | badDistanceLengths
  | badLiteralCode
  | badDistanceCode
  | distanceTooFar
  | dataMismatch
  | lengthMismatch
  deriving DecidableEq, Repr

namespace Flaw

def reason : Flaw → String
  | badHeader => "incorrect header check"
  | unknownMethod => "unknown compression method"
  | badWindow => "invalid window size"
  | unknownFlags => "unknown header flags set"
  | headerMismatch => "header crc mismatch"
  | needsDictionary => "need dictionary"
  | badBlockKind => "invalid block type"
  | badStoredLength => "invalid stored block lengths"
  | tooManySymbols => "too many length or distance symbols"
  | badCodeLengths => "invalid code lengths set"
  | badRepeat => "invalid bit length repeat"
  | noBlockEnd => "invalid code -- missing end-of-block"
  | badLiteralLengths => "invalid literal/lengths set"
  | badDistanceLengths => "invalid distances set"
  | badLiteralCode => "invalid literal/length code"
  | badDistanceCode => "invalid distance code"
  | distanceTooFar => "invalid distance too far back"
  | dataMismatch => "incorrect data check"
  | lengthMismatch => "incorrect length check"

def message : Flaw → String
  | needsDictionary => "Error 2 while decompressing data"
  | flaw => "Error -3 while decompressing data: " ++ flaw.reason

end Flaw

/-- Why reading halts: the data ends, or it has a flaw. -/
inductive Halt where
  | short
  | flaw (f : Flaw)
  deriving DecidableEq, Repr

abbrev Bits := List Bool

namespace Bits

def ofByte (b : UInt8) : Bits := (List.range 8).map fun i => b.toNat.testBit i

def ofBytes (bytes : List UInt8) : Bits := bytes.flatMap ofByte

/-- The number that bits spell, least bit first. -/
def value : Bits → Nat
  | [] => 0
  | b :: bs => (if b then 1 else 0) + 2 * value bs

def number (count : Nat) (bits : Bits) : Except Halt (Nat × Bits) :=
  let taken := bits.take count
  if taken.length < count then .error .short else .ok (value taken, bits.drop count)

def align (bits : Bits) : Bits := bits.drop (bits.length % 8)

end Bits

/-! ### Prefix codes -/

/-- How many words there are of each length from one bit upward, and the symbols in the order of
their words. -/
structure Code where
  counts : List Nat
  symbols : Array Nat
  deriving DecidableEq, Repr

namespace Code

def longestWord : Nat := 15

/-- The code of symbols, numbered from zero, with words of given lengths; length zero is no word. -/
def ofLengths (lengths : List Nat) : Code :=
  let numbered := lengths.zipIdx
  let sizes := (List.range longestWord).map (· + 1)
  { counts := sizes.map fun n => lengths.count n
    symbols := (sizes.flatMap fun n => (numbered.filter (·.1 == n)).map (·.2)).toArray }

def height (c : Code) : Nat :=
  (c.counts.zipIdx.filter (·.1 != 0)).foldl (fun h e => max h (e.2 + 1)) 0

/-- The words that are left free at each length; none when there are too many words. -/
def free? (c : Code) : Option Nat :=
  c.counts.foldl (fun free n => free.bind fun f => if 2 * f < n then none else some (2 * f - n))
    (some 1)

/-- Whether no words are missing. A code without words passes, so that its use is reported. -/
def isWhole (c : Code) : Bool := c.height == 0 || c.free? == some 0

/-- Whether no words are missing, or the only word is a single bit. -/
def isUsable (c : Code) : Bool := c.isWhole || (c.height == 1 && c.free?.isSome)

/-- Read a word bit by bit, `first` being the first word of the current length and `index` the
place of its symbol. A word that is not in the code has no symbol. -/
def walk (symbols : Array Nat) : (counts : List Nat) → (word first index : Nat) → Bits →
    Except Halt (Option Nat × Bits)
  | [], _, _, _, bits => .ok (none, bits)
  | _ :: _, _, _, _, [] => .error .short
  | n :: counts, word, first, index, bit :: bits =>
      let word := 2 * word + if bit then 1 else 0
      let first := 2 * first
      if word < first + n then .ok (symbols[index + (word - first)]?, bits)
      else walk symbols counts word (first + n) (index + n) bits

/-- Read a word of a code; a code without words takes one bit to show that. -/
def next (c : Code) (bits : Bits) : Except Halt (Option Nat × Bits) :=
  walk c.symbols (c.counts.take (max 1 c.height)) 0 0 0 bits

end Code

end SceneMarkup.Compression
