/-! # Quoting

A scan through raw code knows whether it is inside a string literal. A backslash directly before a
quote keeps that quote from opening or closing a literal; backslashes do not cancel each other.
-/

namespace SceneMarkup

def isQuote (c : Char) : Bool := c == '\'' || c == '"'

/-- The quote of the literal around a place, and whether a backslash stands just before it. -/
structure Quoting where
  quote : Option Char
  escaped : Bool
  deriving DecidableEq, Repr

namespace Quoting

/-- Outside every literal. -/
def start : Quoting := ⟨none, false⟩

def quoted (q : Quoting) : Bool := q.quote.isSome

def feed (q : Quoting) (c : Char) : Quoting where
  quote :=
    if isQuote c && !q.escaped then
      match q.quote with
      | none => some c
      | some d => if d = c then none else some d
    else q.quote
  escaped := c == '\\'

/-- The state after a stretch of text. -/
def pass (q : Quoting) (cs : List Char) : Quoting := cs.foldl feed q

end Quoting

/-- Characters before the first place, neither quoted nor escaped, where `terminator` stands. -/
def scriptExtent? (terminator : List Char) (q : Quoting) (n : Nat) : List Char → Option Nat
  | [] => none
  | c :: rest =>
      if !q.quoted && !q.escaped && terminator.isPrefixOf (c :: rest) then some n
      else scriptExtent? terminator (q.feed c) (n + 1) rest

/-- Characters before the brace that closes a binding, where `depth` inner braces are open.
Braces inside literals do not count. -/
def bindingExtent? (q : Quoting) (depth n : Nat) : List Char → Option Nat
  | [] => none
  | c :: rest =>
      if q.quoted then bindingExtent? (q.feed c) depth (n + 1) rest
      else if c = '{' then bindingExtent? (q.feed c) (depth + 1) (n + 1) rest
      else if c = '}' then
        if depth = 0 then some n else bindingExtent? (q.feed c) (depth - 1) (n + 1) rest
      else bindingExtent? (q.feed c) depth (n + 1) rest

end SceneMarkup
