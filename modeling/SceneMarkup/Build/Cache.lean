/-! # Caches

A cache holds values by key, and the order in which the keys were last used. When it is full, the
key whose last use is longest ago makes room for a new one.
-/

namespace SceneMarkup.Build

variable {κ α : Type} [DecidableEq κ]

/-- A table of values and its keys from the least to the most recently used. -/
structure Cache (κ α : Type) where
  capacity : Int
  table : List (κ × α)
  order : List κ
  deriving Repr

namespace Cache

def empty (capacity : Int) : Cache κ α := ⟨capacity, [], []⟩

def size (c : Cache κ α) : Nat := c.table.length

/-- The value of a key, without using it. -/
def peek? (c : Cache κ α) (key : κ) : Option α := c.table.lookup key

def has (c : Cache κ α) (key : κ) : Bool := (c.peek? key).isSome

def touched (order : List κ) (key : κ) : List κ := order.erase key ++ [key]

/-- The value of a key; a hit is a use. -/
def get? (c : Cache κ α) (key : κ) : Option α × Cache κ α :=
  match c.peek? key with
  | some v => (some v, { c with order := touched c.order key })
  | none => (none, c)

/-- Replace the value of a key where it stands, or add it at the end. -/
def putIn (key : κ) (value : α) : List (κ × α) → List (κ × α)
  | [] => [(key, value)]
  | (k, v) :: rest => if k = key then (k, value) :: rest else (k, v) :: putIn key value rest

/-- Give a key a value. A new key in a full cache takes the place of the least recently used; there
is none in a cache that never holds anything. -/
def set? (c : Cache κ α) (key : κ) (value : α) : Option (Cache κ α) :=
  if c.has key then
    some { c with table := putIn key value c.table, order := touched c.order key }
  else if c.capacity ≤ c.size then
    match c.order with
    | [] => none
    | oldest :: order =>
        some { c with
          table := putIn key value (c.table.filter (·.1 ≠ oldest)), order := order ++ [key] }
  else some { c with table := putIn key value c.table, order := c.order ++ [key] }

def clear (c : Cache κ α) : Cache κ α := { c with table := [], order := [] }

end Cache

end SceneMarkup.Build
