import SceneMarkup.Log.Template.Piece

/-! # Padding

The format of a field may give a width, an alignment, a fill and a greatest length for a text. Marks
that are made for numbers are refused.
-/

namespace SceneMarkup.Log.Template

def isAlignment (c : Char) : Bool := c == '<' || c == '>' || c == '=' || c == '^'

def takeOne (p : Char → Bool) : List Char → Option Char × List Char
  | c :: rest => if p c then (some c, rest) else (none, c :: rest)
  | [] => (none, [])

def takeNumber (cs : List Char) : Except Problem (Option Nat × List Char) := do
  let isDigit (c : Char) : Bool := (Text.digitValue? c).isSome
  let n ← number? (cs.takeWhile isDigit)
  return (n, cs.dropWhile isDigit)

def takeAlignment : List Char → Option Char × Option Char × List Char
  | fill :: a :: rest =>
      if isAlignment a then (some fill, some a, rest)
      else if isAlignment fill then (none, some fill, a :: rest)
      else (none, none, fill :: a :: rest)
  | [a] => if isAlignment a then (none, some a, []) else (none, none, [a])
  | [] => (none, none, [])

def align (value : List Char) (width : Nat) (precision : Option Nat) (alignment fill : Char) :
    List Char :=
  let text := match precision with
    | some n => value.take n
    | none => value
  let missing := width - text.length
  let left := if alignment = '>' then missing else if alignment = '^' then missing / 2 else 0
  List.replicate left fill ++ text ++ List.replicate (missing - left) fill

def layOut (value format : List Char) : Except Problem (List Char) := do
  if format.isEmpty then return value
  let (fill, alignment, cs) := takeAlignment format
  let (sign, cs) := takeOne (fun c => c == ' ' || c == '+' || c == '-') cs
  let (coerced, cs) := takeOne (· == 'z') cs
  let (alternate, cs) := takeOne (· == '#') cs
  let (zero, cs) := if fill.isNone then takeOne (· == '0') cs else (none, cs)
  let (width, cs) ← takeNumber cs
  let (comma, cs) := takeOne (· == ',') cs
  let (underscore, cs) := takeOne (· == '_') cs
  let both : Problem := .malformed "Cannot specify both ',' and '_'."
  if underscore.isSome && (comma.isSome || cs.head? == some ',') then throw both
  let (point, cs) := takeOne (· == '.') cs
  let (precision, cs) ← if point.isSome then takeNumber cs else pure (none, cs)
  if point.isSome && precision.isNone then
    throw (.malformed "Format specifier missing precision")
  let kind := cs.headD 's'
  if cs.length > 1 then
    throw (.malformed ("Invalid format specifier '" ++ String.ofList format ++
      "' for object of type 'str'"))
  if (comma.isSome && !"deEfFgG%\x00".toList.contains kind) ||
      (underscore.isSome && !"deEfFgG%\x00boxX".toList.contains kind) then
    let mark := if comma.isSome then "," else "_"
    throw (.malformed ("Cannot specify '" ++ mark ++ "' with '" ++ shownCode 128 kind ++ "'."))
  if kind ≠ 's' then
    throw (.malformed ("Unknown format code '" ++ shownCode 128 kind ++
      "' for object of type 'str'"))
  match sign with
  | some ' ' => throw (.malformed "Space not allowed in string format specifier")
  | some _ => throw (.malformed "Sign not allowed in string format specifier")
  | none => pure ()
  if coerced.isSome then
    throw (.malformed "Negative zero coercion (z) not allowed in string format specifier")
  if alternate.isSome then
    throw (.malformed "Alternate form (#) not allowed in string format specifier")
  if alignment = some '=' then
    throw (.malformed "'=' alignment not allowed in string format specifier")
  return align value (width.getD 0) precision (alignment.getD '<')
    (fill.getD (if zero.isSome then '0' else ' '))

end SceneMarkup.Log.Template
