import SceneMarkup.Log.Thing.Basic
import SceneMarkup.Text.CharClass

/-! # Pieces of templates

A template is text with fields in braces; a doubled brace stands for itself. A field has a name and
may have a conversion and a format.
-/

namespace SceneMarkup.Log.Template

inductive Problem where
  | unknownField (name : String)
  /-- A thing does not have what is asked of it. -/
  | refused (refusal : Thing.Refusal)
  | malformed (message : String)
  deriving DecidableEq, Repr

/-- A stretch of text, or a field with its name, conversion and format. -/
inductive Piece where
  | literal (text : List Char)
  | field (name : List Char) (conversion : Option Char) (format : List Char)

def openBrace : Char := '\x7b'

def closeBrace : Char := '\x7d'

def singleClose : Problem := .malformed "Single '\x7d' encountered in format string"

def singleOpen : Problem := .malformed "Single '\x7b' encountered in format string"

def unclosedField : Problem := .malformed "expected '\x7d' before end of string"

def unclosedFormat : Problem := .malformed "unmatched '\x7b' in format spec"

/-- The name of a field, the character that ends it, and the rest. Inside square brackets every
character belongs to the name. -/
def splitName (inBrackets : Bool) (out : List Char) :
    List Char → Except Problem (List Char × Char × List Char)
  | [] => .error unclosedField
  | c :: rest =>
      if inBrackets then splitName (c != ']') (c :: out) rest
      else if c = openBrace then .error (.malformed "unexpected '\x7b' in field name")
      else if c = '[' then splitName true (c :: out) rest
      else if c = closeBrace ∨ c = ':' ∨ c = '!' then .ok (out.reverse, c, rest)
      else splitName false (c :: out) rest

/-- The format of a field up to its closing brace, where `depth` braces inside it are open. -/
def splitFormat (depth : Nat) (out : List Char) :
    List Char → Except Problem (List Char × List Char)
  | [] => .error unclosedFormat
  | c :: rest =>
      if c = openBrace then splitFormat (depth + 1) (c :: out) rest
      else if c = closeBrace then
        if depth = 0 then .ok (out.reverse, rest) else splitFormat (depth - 1) (c :: out) rest
      else splitFormat depth (c :: out) rest

def splitField (cs : List Char) : Except Problem (Piece × List Char) := do
  let (name, stop, rest) ← splitName false [] cs
  if stop = closeBrace then return (.field name none [], rest)
  else if stop = ':' then
    let (format, rest) ← splitFormat 0 [] rest
    return (.field name none format, rest)
  else match rest with
    | [] => throw (.malformed "end of string while looking for conversion specifier")
    | [_] => throw unclosedFormat
    | conversion :: c :: rest =>
        if c = closeBrace then return (.field name (some conversion) [], rest)
        else if c = ':' then
          let (format, rest) ← splitFormat 0 [] rest
          return (.field name (some conversion) format, rest)
        else throw (.malformed "expected ':' after conversion specifier")

/-- The pieces of a template up to the first place where it is malformed. -/
def pieces : (fuel : Nat) → List Char → List Piece × Option Problem
  | 0, _ => ([], none)
  | fuel + 1, cs =>
      let isBrace (c : Char) : Bool := c == openBrace || c == closeBrace
      let text := cs.takeWhile (!isBrace ·)
      match cs.dropWhile (!isBrace ·) with
      | [] => ([.literal text], none)
      | [c] => ([.literal text], some (if c = openBrace then singleOpen else singleClose))
      | c :: d :: rest =>
          if c = d then
            let (ps, problem) := pieces fuel rest
            (.literal (text ++ [c]) :: ps, problem)
          else if c = closeBrace then ([.literal text], some singleClose)
          else match splitField (d :: rest) with
            | .error problem => ([.literal text], some problem)
            | .ok (piece, rest) =>
                let (ps, problem) := pieces fuel rest
                (.literal text :: piece :: ps, problem)

def tooManyDigits : Problem := .malformed "Too many decimal digits in format string"

def maxNumber : Nat := 0x7FFFFFFFFFFFFFFF

/-- The number that digits of any script spell; without digits, or with anything else, none. -/
def number? (cs : List Char) : Except Problem (Option Nat) :=
  if cs.isEmpty then .ok none
  else cs.foldl (fun acc c => do
    match (← acc), Text.digitValue? c with
    | some n, some d =>
        if 10 * n + d > maxNumber then throw tooManyDigits else pure (some (10 * n + d))
    | _, _ => pure none) (.ok (some 0))

/-- A character as messages about templates show it: as it is below `limit`, unless it is blank. -/
def shownCode (limit : Nat) (c : Char) : String :=
  if 32 < c.toNat ∧ c.toNat < limit then String.singleton c
  else "\\x" ++ String.ofList (Nat.toDigits 16 c.toNat)

end SceneMarkup.Log.Template
