import SceneMarkup.Value.Basic

/-! # Log levels

Five levels with numbers ten apart. A level is given by its name in any case or by its number.
-/

namespace SceneMarkup.Log

inductive Level where
  | debug
  | info
  | warning
  | error
  | critical
  deriving DecidableEq, Repr

namespace Level

def all : List Level := [debug, info, warning, error, critical]

def number : Level → Nat
  | debug => 10
  | info => 20
  | warning => 30
  | error => 40
  | critical => 50

def name : Level → String
  | debug => "DEBUG"
  | info => "INFO"
  | warning => "WARNING"
  | error => "ERROR"
  | critical => "CRITICAL"

instance : LE Level := ⟨fun a b => a.number ≤ b.number⟩

instance (a b : Level) : Decidable (a ≤ b) := inferInstanceAs (Decidable (a.number ≤ b.number))

/-- The capital of a letter, as far as names of levels go: apart from ASCII, only the dotless i has
a capital that occurs in one. -/
def capital (c : Char) : Char := if c.toNat = 0x131 then 'I' else c.toUpper

def ofName? (s : String) : Option Level :=
  all.find? fun l => l.name.toList == s.toList.map capital

/-- Whether a value is the number of a level; truth values are no numbers here. -/
def isNumber (l : Level) : Value → Bool
  | .integer i => i == l.number
  | .binary x => x.equalsInt l.number
  | _ => false

inductive Unknown where
  | name (s : String)
  | value (v : Value)

def Unknown.message : Unknown → String
  | name s => "Unknown log level: " ++ s
  | value v => v.inner ++ " is not a valid LogLevel"

/-- The level that a value denotes. -/
def parse : Value → Except Unknown Level
  | .text s =>
      match ofName? s with
      | some l => .ok l
      | none => .error (.name s)
  | v =>
      match all.find? (·.isNumber v) with
      | some l => .ok l
      | none => .error (.value v)

end Level

end SceneMarkup.Log
