import SceneMarkup.Setting.Environment

/-! # Objects in memory

Lists and tables are objects, and two places may hold the same one: what is written to it in one of
them is seen in the other. Copying keeps that apart from the original and alike within the copy.
Laying a table over another one and setting the entry at a path write to the objects themselves.
-/

namespace SceneMarkup.Setting

/-- A value that is no object. -/
abbrev Plain := {v : Value // (∀ xs, v ≠ .list xs) ∧ ∀ es, v ≠ .table es}

/-- What a place holds: a value that never changes, or the address of an object. -/
inductive Datum where
  | plain (v : Plain)
  | object (address : Nat)

namespace Datum

def null : Datum := .plain ⟨.null, by simp⟩

def number (i : Int) : Datum := .plain ⟨.integer i, by simp⟩

def text (s : String) : Datum := .plain ⟨.text s, by simp⟩

end Datum

inductive Cell where
  | list (elements : List Datum)
  | table (entries : Entries Datum)

namespace Cell

def data : Cell → List Datum
  | list xs => xs
  | table es => es.map Prod.snd

/-- An object of the same kind, and with the same keys, that holds other data. -/
def refill : Cell → List Datum → Cell
  | list _, ds => list ds
  | table es, ds => table ((es.map Prod.fst).zip ds)

end Cell

/-- The objects that were made, each at its address. -/
abbrev Memory := List Cell

section Tables

def tableAt? (m : Memory) : Datum → Option Nat
  | .object a => match m[a]? with
    | some (.table _) => some a
    | _ => none
  | .plain _ => none

def entriesAt (m : Memory) (a : Nat) : Entries Datum :=
  match m[a]? with
  | some (.table es) => es
  | _ => []

def putAt (m : Memory) (a : Nat) (key : String) (d : Datum) : Memory :=
  m.set a (.table ((entriesAt m a).put key d))

/-- The datum that a path leads to. -/
def walk (m : Memory) : List String → Datum → Option Datum
  | [], d => some d
  | p :: ps, d => (tableAt? m d).bind fun a => ((entriesAt m a).get? p).bind (walk m ps)

end Tables

section Reading

def readEach (read : Datum → Option (Value × List Nat)) :
    List Datum → Option (List Value × List Nat)
  | [] => some ([], [])
  | d :: ds => do
      let (v, as) ← read d
      let (vs, bs) ← readEach read ds
      return (v :: vs, as ++ bs)

/-- The value of a datum, if it has at most so many objects inside one another, and the addresses of
the objects that are met in it. -/
def read (m : Memory) : (room : Nat) → Datum → Option (Value × List Nat)
  | _, .plain v => some (v.val, [])
  | 0, .object _ => none
  | room + 1, .object a => match m[a]? with
    | none => none
    | some (.list xs) => (readEach (read m room) xs).map fun (vs, as) => (.list vs, a :: as)
    | some (.table es) =>
        if (es.map Prod.fst).Nodup then
          (readEach (read m room) (es.map Prod.snd)).map fun (vs, as) =>
            (.table ((es.map Prod.fst).zip vs), a :: as)
        else none

end Reading

section Copying

/-- A memory in the course of a copy, and the objects of which copies were begun, each with its
copy. -/
structure Copying where
  memory : Memory
  begun : List (Nat × Nat)

/-- Begin the copy of an object, at the next address. -/
def Copying.begin (c : Copying) (a : Nat) (cell : Cell) : Copying :=
  ⟨c.memory ++ [cell.refill []], (a, c.memory.length) :: c.begun⟩

def copyEach (copy : Datum → Copying → Except Misuse (Datum × Copying)) :
    List Datum → Copying → Except Misuse (List Datum × Copying)
  | [], c => .ok ([], c)
  | d :: ds, c => match copy d c with
    | .error m => .error m
    | .ok (d', c') => match copyEach copy ds c' with
      | .error m => .error m
      | .ok (ds', c'') => .ok (d' :: ds', c'')

/-- Copy a datum. An object has one copy, wherever it is met again, and the copy is begun before
what the object holds is copied. There is room for so many levels of data inside one another. -/
def copyDatum : (room : Nat) → Datum → Copying → Except Misuse (Datum × Copying)
  | 0, _, _ => .error .tooDeep
  | _ + 1, .plain v, c => .ok (.plain v, c)
  | room + 1, .object a, c => match c.begun.lookup a, c.memory[a]? with
    | some b, _ => .ok (.object b, c)
    | none, none => .ok (.object a, c)
    | none, some cell =>
        match copyEach (copyDatum room) cell.data (c.begin a cell) with
        | .error m => .error m
        | .ok (ds, c') => .ok (.object c.memory.length,
            ⟨c'.memory.set c.memory.length (cell.refill ds), c'.begun⟩)

def copy (room : Nat) (m : Memory) (d : Datum) : Except Misuse (Datum × Memory) :=
  (copyDatum room d ⟨m, []⟩).map fun (d, c) => (d, c.memory)

end Copying

section Laying

def layEntry (lay : (base upper : Nat) → Memory → Except Misuse Memory) (base : Nat)
    (key : String) (d : Datum) (m : Memory) : Except Misuse Memory :=
  match ((entriesAt m base).get? key).bind (tableAt? m), tableAt? m d with
  | some b, some u => lay b u m
  | _, _ => .ok (putAt m base key d)

/-- Lay the entries of some keys over a table. They are read as they are when their turn comes, and
the table that holds them must not have grown. -/
def layKeys (lay : (base upper : Nat) → Memory → Except Misuse Memory) (base upper size : Nat) :
    List String → Memory → Except Misuse Memory
  | [], m => if (entriesAt m upper).length = size then .ok m else .error .grownTable
  | key :: keys, m =>
      if (entriesAt m upper).length = size then
        match (entriesAt m upper).get? key with
        | none => .ok m
        | some d => match layEntry lay base key d m with
          | .error e => .error e
          | .ok m => layKeys lay base upper size keys m
      else .error .grownTable

/-- Lay a table over another one: tables merge, anything else takes the place of what was there. -/
def lay : (room : Nat) → (base upper : Nat) → Memory → Except Misuse Memory
  | 0, _, _, _ => .error .tooDeep
  | room + 1, base, upper, m =>
      layKeys (lay room) base upper (entriesAt m upper).length
        ((entriesAt m upper).map Prod.fst) m

end Laying

section Writing

def write (d : Datum) : List String → Datum → Memory → Except Misuse Unit × Memory
  | [], _, m => (.ok (), m)
  | p :: ps, place, m => match tableAt? m place, ps with
    | none, [] => (.error .blockedEntry, m)
    | none, _ :: _ => (.error .blockedStep, m)
    | some a, [] => (.ok (), putAt m a p d)
    | some a, q :: ps => match (entriesAt m a).get? p with
      | some inner => write d (q :: ps) inner m
      | none =>
          write d (q :: ps) (.object m.length) (putAt m a p (.object m.length) ++ [.table []])

mutual

def store : Value → Memory → Datum × Memory
  | .list xs, m =>
      let (ds, m) := storeElements xs m
      (.object m.length, m ++ [.list ds])
  | .table es, m =>
      let (ds, m) := storeEntries es m
      (.object m.length, m ++ [.table ds])
  | .null, m => (.null, m)
  | .bool b, m => (.plain ⟨.bool b, by simp⟩, m)
  | .integer i, m => (.number i, m)
  | .binary x, m => (.plain ⟨.binary x, by simp⟩, m)
  | .text s, m => (.text s, m)
  | .path p, m => (.plain ⟨.path p, by simp⟩, m)

def storeElements : List Value → Memory → List Datum × Memory
  | [], m => ([], m)
  | x :: xs, m =>
      let (d, m) := store x m
      let (ds, m) := storeElements xs m
      (d :: ds, m)

def storeEntries : List (String × Value) → Memory → Entries Datum × Memory
  | [], m => ([], m)
  | (key, x) :: es, m =>
      let (d, m) := store x m
      let (ds, m) := storeEntries es m
      ((key, d) :: ds, m)

end

def storeAt (root : Datum) (m : Memory) (e : String × Value) : Except Misuse Memory :=
  let (d, m) := store e.2 m
  match write d (steps e.1) root m with
  | (.ok (), m) => .ok m
  | (.error misuse, _) => .error misuse

/-- Make the nested table that dotted keys amount to. -/
def storeNested (flat : Entries Value) (m : Memory) : Except Misuse (Datum × Memory) :=
  (flat.foldlM (storeAt (.object m.length)) (m ++ [.table []])).map (.object m.length, ·)

end Writing

end SceneMarkup.Setting
