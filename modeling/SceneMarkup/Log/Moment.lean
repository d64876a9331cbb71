/-! # Moments

Dates with times of day, in the ISO form and by patterns of directives.
-/

namespace SceneMarkup.Log

structure Moment where
  year : Nat
  month : Nat
  day : Nat
  hour : Nat
  minute : Nat
  second : Nat
  microsecond : Nat
  deriving DecidableEq, Repr

namespace Moment

def padded (width n : Nat) : List Char :=
  let digits := Nat.toDigits 10 n
  List.replicate (width - digits.length) '0' ++ digits

def isLeapYear (year : Nat) : Bool := year % 4 == 0 && (year % 100 != 0 || year % 400 == 0)

def daysBefore (year month : Nat) : Nat :=
  let common := [0, 31, 59, 90, 120, 151, 181, 212, 243, 273, 304, 334].getD (month - 1) 0
  if month > 2 && isLeapYear year then common + 1 else common

/-- The ISO form; a fraction is written unless it is zero. -/
def iso (m : Moment) : String :=
  let fraction := if m.microsecond = 0 then [] else '.' :: padded 6 m.microsecond
  String.ofList (padded 4 m.year ++ '-' :: padded 2 m.month ++ '-' :: padded 2 m.day ++
    'T' :: padded 2 m.hour ++ ':' :: padded 2 m.minute ++ ':' :: padded 2 m.second ++ fraction)

def directive? (m : Moment) : Char → Option (List Char)
  | 'Y' => some (padded 1 m.year)
  | 'm' => some (padded 2 m.month)
  | 'd' => some (padded 2 m.day)
  | 'H' => some (padded 2 m.hour)
  | 'M' => some (padded 2 m.minute)
  | 'S' => some (padded 2 m.second)
  | 'y' => some (padded 2 (m.year % 100))
  | 'j' => some (padded 3 (daysBefore m.year m.month + m.day))
  | 'f' => some (padded 6 m.microsecond)
  | '%' => some ['%']
  | _ => none

def fillLoop (m : Moment) (out : List Char) : List Char → List Char
  | '%' :: c :: rest =>
      match m.directive? c with
      | some text => fillLoop m (text.reverse ++ out) rest
      | none => fillLoop m (c :: '%' :: out) rest
  | c :: rest => fillLoop m (c :: out) rest
  | [] => out.reverse

/-- A pattern with its directives filled in; it ends before its first null character. -/
def fill (m : Moment) (pattern : String) : String :=
  String.ofList (fillLoop m [] (pattern.toList.takeWhile (· != '\x00')))

end Moment

end SceneMarkup.Log
