/-! # Ordered maps

A map is the list of its entries in the order in which their keys were first put. Putting a key
again replaces the value where it stands.
-/

namespace SceneMarkup

/-- Entries with distinct keys, oldest key first. -/
abbrev Entries (α : Type) := List (String × α)

namespace Entries

variable {α β : Type}

def get? : Entries α → String → Option α
  | [], _ => none
  | (k, v) :: rest, key => if k = key then some v else get? rest key

def has (m : Entries α) (key : String) : Bool := (m.get? key).isSome

/-- Set a key: in place when it is there, at the end when it is new. -/
def put : Entries α → String → α → Entries α
  | [], key, value => [(key, value)]
  | (k, v) :: rest, key, value =>
      if k = key then (k, value) :: rest else (k, v) :: put rest key value

def erase (m : Entries α) (key : String) : Entries α := m.filter fun e => e.1 != key

/-- Put every entry of the second map into the first. -/
def update (m n : Entries α) : Entries α := n.foldl (fun m e => m.put e.1 e.2) m

/-- The last value given to a key wins; its first place stays. -/
def ofList (pairs : List (String × α)) : Entries α := update [] pairs

/-- Same keys with related values, whatever their order. -/
def agrees (same : α → α → Bool) (m n : Entries α) : Bool :=
  m.length == n.length &&
    m.all fun e => match n.get? e.1 with
      | some v => same e.2 v
      | none => false

theorem get?_put (m : Entries α) (key k : String) (value : α) :
    (m.put key value).get? k = if key = k then some value else m.get? k := by
  induction m with
  | nil => simp [put, get?]
  | cons e rest ih =>
    obtain ⟨k', v'⟩ := e
    by_cases h : k' = key
    · subst h; by_cases hk : k' = k <;> simp [put, get?, hk]
    · by_cases hk : k' = k
      · subst hk; simp [put, get?, h, Ne.symm h]
      · simp [put, get?, h, hk, ih]

end Entries

end SceneMarkup
