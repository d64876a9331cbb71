import SceneMarkup.Json.Basic

/-! # Reading JSON

A strict reader: four blanks, numbers without superfluous zeros, no control characters in strings,
no unpaired surrogates. A dialect says which integers stay exact and how deeply values nest.
-/

namespace SceneMarkup.Json

/-- Integers outside `exact` are read as floating-point numbers. -/
structure Dialect where
  maxDepth : Nat
  exact : Int → Bool

def isSpace (c : Char) : Bool := c == ' ' || c == '\t' || c == '\n' || c == '\r'

def skipSpace (cs : List Char) : List Char := cs.dropWhile isSpace

def hexValue? (c : Char) : Option Nat :=
  if '0' ≤ c ∧ c ≤ '9' then some (c.toNat - 48)
  else if 'a' ≤ c ∧ c ≤ 'f' then some (c.toNat - 87)
  else if 'A' ≤ c ∧ c ≤ 'F' then some (c.toNat - 55)
  else none

def hex4? (a b c d : Char) : Option Nat := do
  some (4096 * (← hexValue? a) + 256 * (← hexValue? b) + 16 * (← hexValue? c) + (← hexValue? d))

def unescape? : Char → Option Char
  | '"' => some '"'
  | '\\' => some '\\'
  | '/' => some '/'
  | 'b' => some (Char.ofNat 0x08)
  | 'f' => some (Char.ofNat 0x0C)
  | 'n' => some '\n'
  | 'r' => some '\r'
  | 't' => some '\t'
  | _ => none

def isHighSurrogate (n : Nat) : Bool := 0xD800 ≤ n && n < 0xDC00

def isLowSurrogate (n : Nat) : Bool := 0xDC00 ≤ n && n < 0xE000

/-- The rest of a string after its opening quote, with the characters read so far reversed. -/
def readString (out : List Char) : List Char → Option (String × List Char)
  | '"' :: rest => some (String.ofList out.reverse, rest)
  | '\\' :: 'u' :: a :: b :: c :: d :: rest =>
      match hex4? a b c d with
      | none => none
      | some n =>
          if isHighSurrogate n then
            match rest with
            | '\\' :: 'u' :: a :: b :: c :: d :: rest =>
                match hex4? a b c d with
                | some m =>
                    if isLowSurrogate m then
                      readString
                        (Char.ofNat (0x10000 + 1024 * (n - 0xD800) + (m - 0xDC00)) :: out) rest
                    else none
                | none => none
            | _ => none
          else if isLowSurrogate n then none
          else readString (Char.ofNat n :: out) rest
  | '\\' :: c :: rest =>
      match unescape? c with
      | some c => readString (c :: out) rest
      | none => none
  | c :: rest => if c = '\\' ∨ c.toNat < 0x20 then none else readString (c :: out) rest
  | [] => none

def natOf (digits : List Char) : Nat := digits.foldl (fun n c => 10 * n + (c.toNat - 48)) 0

/-- Digits after a point, at least one; without a point there are none. -/
def readFraction : List Char → Option (List Char × List Char)
  | '.' :: rest =>
      let digits := rest.takeWhile Char.isDigit
      if digits.isEmpty then none else some (digits, rest.dropWhile Char.isDigit)
  | rest => some ([], rest)

def readPower (cs : List Char) : Option (Option Int × List Char) :=
  match cs with
  | c :: rest =>
      if c = 'e' ∨ c = 'E' then
        let (negative, rest) := match rest with
          | '-' :: rest => (true, rest)
          | '+' :: rest => (false, rest)
          | rest => (false, rest)
        let digits := rest.takeWhile Char.isDigit
        if digits.isEmpty then none
        else
          let n : Int := natOf digits
          some (some (if negative then -n else n), rest.dropWhile Char.isDigit)
      else some (none, cs)
  | [] => some (none, cs)

def finite? : Number.Binary64 → Option Json
  | .finite n m e => some (.binary (.finite n m e))
  | _ => none

def readMagnitude (d : Dialect) (negative : Bool) (cs : List Char) :
    Option (Json × List Char) := do
  let whole := cs.takeWhile Char.isDigit
  let rest := cs.dropWhile Char.isDigit
  if whole.isEmpty || (whole.head? == some '0' && whole.length > 1) then none
  else
    let (fraction, rest) ← readFraction rest
    let (power, rest) ← readPower rest
    if fraction.isEmpty && power.isNone then
      let i : Int := natOf whole
      let i := if negative then -i else i
      if d.exact i then some (.integer i, rest)
      else (finite? (.ofDecimal negative i.natAbs 0)).map (·, rest)
    else
      let coefficient := natOf (whole ++ fraction)
      (finite? (.ofDecimal negative coefficient (power.getD 0 - fraction.length))).map (·, rest)

mutual

/-- A value; `depth` more containers may be opened, and `fuel` bounds the calls. -/
def readValue (d : Dialect) :
    (fuel depth : Nat) → List Char → Option (Json × List Char)
  | 0, _, _ => none
  | fuel + 1, depth, cs =>
      match skipSpace cs with
      | '{' :: rest =>
          if depth = 0 then none
          else match skipSpace rest with
            | '}' :: rest => some (.object [], rest)
            | rest => readMembers d fuel (depth - 1) [] rest
      | '[' :: rest =>
          if depth = 0 then none
          else match skipSpace rest with
            | ']' :: rest => some (.array [], rest)
            | rest => readElements d fuel (depth - 1) [] rest
      | '"' :: rest => (readString [] rest).map fun (s, rest) => (.string s, rest)
      | 't' :: 'r' :: 'u' :: 'e' :: rest => some (.bool true, rest)
      | 'f' :: 'a' :: 'l' :: 's' :: 'e' :: rest => some (.bool false, rest)
      | 'n' :: 'u' :: 'l' :: 'l' :: rest => some (.null, rest)
      | '-' :: rest => readMagnitude d true rest
      | rest => readMagnitude d false rest

def readElements (d : Dialect) :
    (fuel depth : Nat) → List Json → List Char → Option (Json × List Char)
  | 0, _, _, _ => none
  | fuel + 1, depth, out, cs =>
      match readValue d fuel depth cs with
      | none => none
      | some (x, rest) =>
          match skipSpace rest with
          | ',' :: rest => readElements d fuel depth (x :: out) rest
          | ']' :: rest => some (.array (x :: out).reverse, rest)
          | _ => none

/-- The members of an object up to its end; of a repeated key the last value counts. -/
def readMembers (d : Dialect) :
    (fuel depth : Nat) → Entries Json → List Char → Option (Json × List Char)
  | 0, _, _, _ => none
  | fuel + 1, depth, out, cs =>
      match skipSpace cs with
      | '"' :: rest =>
          match readString [] rest with
          | none => none
          | some (key, rest) =>
              match skipSpace rest with
              | ':' :: rest =>
                  match readValue d fuel depth rest with
                  | none => none
                  | some (x, rest) =>
                      match skipSpace rest with
                      | ',' :: rest => readMembers d fuel depth (Entries.put out key x) rest
                      | '}' :: rest => some (.object (Entries.put out key x), rest)
                      | _ => none
              | _ => none
      | _ => none

end

/-- The value that a text denotes, with nothing but blanks around it. -/
def read? (d : Dialect) (text : String) : Option Json :=
  let cs := text.toList
  match readValue d (2 * cs.length + 2) d.maxDepth cs with
  | some (j, rest) => if (skipSpace rest).isEmpty then some j else none
  | none => none

end SceneMarkup.Json
