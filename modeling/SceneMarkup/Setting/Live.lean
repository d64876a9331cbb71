import SceneMarkup.Setting.Memory
import SceneMarkup.Setting.Project

/-! # Settings over shared objects

The layers of settings hold objects of a memory, and so does the table that they amount to. Layers
are copied before they are merged, so that merging writes to no object of theirs. What is set at run
time is written to the objects of its layer.
-/

namespace SceneMarkup

namespace Setting

/-- A layer whose data lies in memory. -/
structure Source where
  name : String
  data : Datum
  priority : Int

def rankedSources (sources : List Source) : List Source :=
  sources.mergeSort fun a b => a.priority ≤ b.priority

/-- Lay a copy of a source's data over the table at an address. A level of data takes two calls to
copy and one to lay. -/
def laySource (levels root : Nat) (m : Memory) (source : Source) : Except Misuse Memory :=
  match copy levels m source.data with
  | .error e => .error e
  | .ok (d, m) => match tableAt? m d with
    | some upper => lay (2 * levels) root upper m
    | none => .error .layerWithoutEntries

def mergeSources (levels : Nat) (sources : List Source) (m : Memory) : Except Misuse Memory :=
  (rankedSources sources).foldlM (laySource levels m.length) (m ++ [.table []])

end Setting

open Setting

/-- Sources, oldest first, and the address of their merged table while it is up to date. -/
structure LiveSettings where
  limits : Limits
  memory : Memory
  sources : List Source
  view : Option Nat

namespace LiveSettings

def empty (limits : Limits) (m : Memory) : LiveSettings := ⟨limits, m, [], none⟩

def addSource (s : LiveSettings) (name : String) (data : Datum) (priority : Int) : LiveSettings :=
  { s with sources := s.sources ++ [⟨name, data, priority⟩], view := none }

/-- Settings that start from a copy of a table of defaults. -/
def ofDefaults (limits : Limits) (m : Memory) (defaults : Datum) : Except Misuse LiveSettings :=
  (copy limits.levels m defaults).map fun (d, m) => (empty limits m).addSource "defaults" d 0

/-- The address of the merged table. What is copied before a failure is not kept. -/
def table (s : LiveSettings) : Except Misuse Nat × LiveSettings :=
  match s.view with
  | some a => (.ok a, s)
  | none => match mergeSources s.limits.levels s.sources s.memory with
    | .error e => (.error e, s)
    | .ok m => (.ok s.memory.length, { s with memory := m, view := some s.memory.length })

/-- What is bound to a key, or the default. -/
def get (s : LiveSettings) (key : String) (default : Datum) :
    Except Misuse Datum × LiveSettings :=
  match s.table with
  | (.error e, s) => (.error e, s)
  | (.ok a, s) => (.ok ((walk s.memory (steps key) (.object a)).getD default), s)

def copied (s : LiveSettings) (d : Datum) : Except Misuse Datum × LiveSettings :=
  match copy s.limits.levels s.memory d with
  | .error e => (.error e, s)
  | .ok (d, m) => (.ok d, { s with memory := m })

/-- A copy of the merged table. -/
def all (s : LiveSettings) : Except Misuse Datum × LiveSettings :=
  match s.table with
  | (.error e, s) => (.error e, s)
  | (.ok a, s) => s.copied (.object a)

def part (s : LiveSettings) (key : String) : Except Misuse Datum × LiveSettings :=
  match s.get key .null with
  | (.error e, s) => (.error e, s)
  | (.ok d, s) => match tableAt? s.memory d with
    | none => (.ok (.object s.memory.length), { s with memory := s.memory ++ [.table []] })
    | some _ => s.copied d

def withRuntime (s : LiveSettings) : LiveSettings :=
  if s.sources.any (·.name == Settings.runtimeName) then s
  else
    { s with
      memory := s.memory ++ [.table []]
      sources := s.sources ++
        [⟨Settings.runtimeName, .object s.memory.length, Settings.runtimePriority⟩] }

/-- Set a key at run time. A failed write may leave a new, empty source behind. -/
def set (s : LiveSettings) (key : String) (d : Datum) : Except Misuse Unit × LiveSettings :=
  match s.withRuntime.sources.find? (·.name == Settings.runtimeName) with
  | none => (.ok (), s.withRuntime)
  | some source => match write d (steps key) source.data s.withRuntime.memory with
    | (.ok (), m) => (.ok (), { s.withRuntime with memory := m, view := none })
    | (.error e, m) => (.error e, { s.withRuntime with memory := m })

/-- Add the overrides of an environment as a source, unless there are none. -/
def addEnvironment (s : LiveSettings) (environment : List (String × String)) :
    Except Misuse LiveSettings :=
  match overrides s.limits.dialect environment with
  | [] => .ok s
  | flat => match storeNested flat s.memory with
    | .error e => .error e
    | .ok (d, m) => .ok ({ s with memory := m }.addSource "env" d 100)

def ofProject (limits : Limits) (m : Memory) (file : Option Datum)
    (environment : List (String × String)) : Except Misuse LiveSettings :=
  match ofDefaults limits (store standard m).2 (store standard m).1 with
  | .error e => .error e
  | .ok s => (file.elim s (s.addSource ("file:" ++ fileName) · 10)).addEnvironment environment

end LiveSettings

end SceneMarkup
