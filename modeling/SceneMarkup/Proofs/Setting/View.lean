import SceneMarkup.Setting.Project

/-! # The merged table of settings

Settings answer every question as they would without the table that they keep: while they keep one,
it is what their layers amount to. A write that fails leaves that table as it is, since it leaves
the layers as they are.
-/

namespace SceneMarkup.Settings

open Setting

/-- What can be done with settings. -/
inductive Operation where
  | create (defaults : Option Value)
  | addLayer (name : String) (data : Value) (priority : Int)
  | addFile (file : Option Definitions)
  | addEnvironment (environment : List (String × String))
  | set (key : String) (v : Value)
  | get (key : String) (default : Value)
  | getInt (key : String) (default : Value)
  | getBool (key : String) (default : Value)
  | has (key : String)
  | item (key : String)
  | part (key : String)
  | all
  deriving Repr

inductive Answer where
  | done
  | value (v : Value)
  | flag (b : Bool)
  | table (es : Entries Value)
  deriving Repr

/-- Room for a hundred levels, and integers of 64 bits. -/
def ample : Limits := ⟨100, ⟨1024, Json.isWord⟩⟩

def answered {α : Type} (answer : α → Answer) (r : Except Misuse α × Settings) :
    Except Misuse Answer × Settings := (r.1.map answer, r.2)

/-- What an operation returns, and the settings behind it. A failed environment adds nothing. -/
def perform (s : Settings) : Operation → Except Misuse Answer × Settings
  | .create none => (.ok .done, empty s.limits)
  | .create (some defaults) => (.ok .done, ofDefaults s.limits defaults)
  | .addLayer name data priority => (.ok .done, s.addLayer name data priority)
  | .addFile file => (.ok .done, file.elim s s.addFile)
  | .addEnvironment environment => match s.addEnvironment environment with
    | .ok s' => (.ok .done, s')
    | .error m => (.error m, s)
  | .set key v => answered (fun _ => .done) (s.set key v)
  | .get key default => answered .value (s.get key default)
  | .getInt key default => answered .value (s.getInt key default)
  | .getBool key default => answered .flag (s.getBool key default)
  | .has key => answered .flag (s.has key)
  | .item key => answered .value (s.item key)
  | .part key => answered .table (s.part key)
  | .all => answered .table s.all

/-- What operations return, one after the other. -/
def answers (s : Settings) : List Operation → List (Except Misuse Answer)
  | [] => []
  | op :: ops => (s.perform op).1 :: (s.perform op).2.answers ops

def forget (s : Settings) : Settings := { s with view := none }

/-- What operations return when no merged table is kept, so that every question merges the layers
from scratch. -/
def answersAfresh (s : Settings) : List Operation → List (Except Misuse Answer)
  | [] => []
  | op :: ops => (s.forget.perform op).1 :: (s.forget.perform op).2.answersAfresh ops

/-- The settings behind operations. -/
def performAll (s : Settings) : List Operation → Settings
  | [] => s
  | op :: ops => (s.perform op).2.performAll ops

/-- A merged table that is kept is what the layers amount to. -/
def Current (s : Settings) : Prop :=
  ∀ t, s.view = some t → merged s.limits.levels s.layers = .ok t

/-- The same outcome, and settings that differ in nothing but a merged table. -/
def Agree {α : Type} (r r' : Except Misuse α × Settings) : Prop :=
  r.1 = r'.1 ∧ r.2.forget = r'.2.forget

variable {α : Type} {s : Settings} {r r' : Except Misuse α × Settings}

theorem current_of_view_eq_none (h : s.view = none) : s.Current := by
  intro t ht
  rw [h] at ht
  cases ht

theorem current_empty (limits : Limits) : (empty limits).Current := current_of_view_eq_none rfl

theorem current_forget (s : Settings) : s.forget.Current := current_of_view_eq_none rfl

@[simp] theorem limits_empty (limits : Limits) : (empty limits).limits = limits := rfl

@[simp] theorem limits_forget (s : Settings) : s.forget.limits = s.limits := rfl

theorem agree_refl (r : Except Misuse α × Settings) : Agree r r := ⟨rfl, rfl⟩

theorem Agree.answered (answer : α → Answer) (h : Agree r r') :
    Agree (answered answer r) (answered answer r') :=
  ⟨congrArg (Except.map answer) h.1, h.2⟩

/-! ### Questions -/

theorem ask_fst (h : s.Current) (question : Entries Value → Except Misuse α) :
    (s.ask question).1 = merged s.limits.levels s.layers >>= question := by
  unfold ask
  split
  · next t ht =>
    rw [h t ht]
    rfl
  · split <;> next hm => rw [hm]; rfl

theorem forget_ask (s : Settings) (question : Entries Value → Except Misuse α) :
    (s.ask question).2.forget = s.forget := by
  unfold ask
  split
  · rfl
  · split <;> rfl

theorem current_ask (h : s.Current) (question : Entries Value → Except Misuse α) :
    (s.ask question).2.Current := by
  unfold ask
  split
  · exact h
  · split
    · next t ht =>
      rintro _ ⟨⟩
      exact ht
    · exact h

theorem agree_ask (h : s.Current) (question : Entries Value → Except Misuse α) :
    Agree (s.ask question) (s.forget.ask question) := by
  constructor
  · rw [ask_fst h, ask_fst s.current_forget]
    rfl
  · rw [forget_ask, forget_ask]
    rfl

/-! ### Writes -/

theorem exists_assign_nil (v : Value) (path : List String) :
    ∃ t, assign v path (.table []) = .ok t := by
  induction path with
  | nil => exact ⟨v, rfl⟩
  | cons p ps ih =>
    cases ps with
    | nil => exact ⟨_, rfl⟩
    | cons q ps =>
      obtain ⟨t, ht⟩ := ih
      refine ⟨.table (Entries.put [] p t), ?_⟩
      simp [assign, Entries.get?, ht]

theorem assignIn_append {name : String} {layers : List Layer} (path : List String) (v : Value)
    (h : ∀ l ∈ layers, l.name ≠ name) (data : Value) (priority : Int) (after : List Layer) :
    assignIn name path v (layers ++ ⟨name, data, priority⟩ :: after) =
      some ((assign v path data).map fun data => layers ++ ⟨name, data, priority⟩ :: after) := by
  induction layers with
  | nil =>
    simp only [List.nil_append, assignIn, if_true]
    cases assign v path data <;> rfl
  | cons l ls ih =>
    have hl : l.name ≠ name := h l (by simp)
    rw [List.cons_append, assignIn, if_neg hl, ih fun l' hl' => h l' (by simp [hl'])]
    cases assign v path data <;> rfl

theorem exists_assignIn {name : String} {layers : List Layer} (path : List String) (v : Value)
    (h : layers.any (·.name == name)) : ∃ r, assignIn name path v layers = some r := by
  induction layers with
  | nil => cases h
  | cons l ls ih =>
    by_cases hl : l.name = name
    · exact ⟨_, if_pos hl⟩
    · have hs : ls.any (·.name == name) := by simpa [hl] using h
      obtain ⟨r, hr⟩ := ih hs
      exact ⟨r.map (l :: ·), by rw [assignIn, if_neg hl, hr]; rfl⟩

theorem set_of_new (key : String) (v : Value) (h : ¬ s.layers.any (·.name == runtimeName)) :
    ∃ data, assign v (steps key) (.table []) = .ok data ∧
      s.set key v =
        (.ok (), ⟨s.limits, s.layers ++ [⟨runtimeName, data, runtimePriority⟩], none⟩) := by
  obtain ⟨data, hd⟩ := exists_assign_nil v (steps key)
  have hn : ∀ l ∈ s.layers, l.name ≠ runtimeName := by
    intro l hl he
    exact h (List.any_eq_true.mpr ⟨l, hl, by simp [he]⟩)
  refine ⟨data, hd, ?_⟩
  simp only [set, if_neg h, assignIn_append (steps key) v hn, hd]
  rfl

theorem set_of_old (key : String) (v : Value) (h : s.layers.any (·.name == runtimeName)) :
    (∃ layers, assignIn runtimeName (steps key) v s.layers = some (.ok layers) ∧
      s.set key v = (.ok (), ⟨s.limits, layers, none⟩)) ∨
    ∃ m, assignIn runtimeName (steps key) v s.layers = some (.error m) ∧
      s.set key v = (.error m, s) := by
  obtain ⟨r, hr⟩ := exists_assignIn (steps key) v h
  cases r with
  | ok layers =>
    refine .inl ⟨layers, hr, ?_⟩
    simp only [set, if_pos h, hr]
  | error m =>
    refine .inr ⟨m, hr, ?_⟩
    simp only [set, if_pos h, hr]

theorem agree_set (s : Settings) (key : String) (v : Value) :
    Agree (s.set key v) (s.forget.set key v) := by
  obtain ⟨limits, layers, view⟩ := s
  change Agree (set ⟨limits, layers, view⟩ key v) (set ⟨limits, layers, none⟩ key v)
  unfold set
  dsimp only
  generalize assignIn runtimeName (steps key) v _ = r
  rcases r with _ | m | layers' <;> exact ⟨rfl, rfl⟩

theorem current_set (h : s.Current) (key : String) (v : Value) : (s.set key v).2.Current := by
  by_cases hr : s.layers.any (·.name == runtimeName)
  · rcases set_of_old key v hr with ⟨layers, -, he⟩ | ⟨m, -, he⟩
    · rw [he]
      exact current_of_view_eq_none rfl
    · rw [he]
      exact h
  · obtain ⟨data, -, he⟩ := set_of_new key v hr
    rw [he]
    exact current_of_view_eq_none rfl

def environmentData? (dialect : Json.Dialect) (environment : List (String × String)) :
    Except Misuse (Option Value) :=
  match overrides dialect environment with
  | [] => .ok none
  | flat => (nest flat).map some

theorem addEnvironment_eq (s : Settings) (environment : List (String × String)) :
    s.addEnvironment environment =
      (environmentData? s.limits.dialect environment).map fun data =>
        data.elim s (s.addLayer "env" · 100) := by
  unfold addEnvironment environmentData?
  cases overrides s.limits.dialect environment with
  | nil => rfl
  | cons e es =>
    dsimp only
    cases nest (e :: es) <;> rfl

/-! ### Histories -/

variable {op : Operation}

theorem agree_perform (h : s.Current) (op : Operation) :
    Agree (s.perform op) (s.forget.perform op) := by
  cases op with
  | create defaults => cases defaults <;> exact agree_refl _
  | addLayer => exact agree_refl _
  | addFile file => cases file <;> exact ⟨rfl, rfl⟩
  | addEnvironment environment =>
    simp only [perform, addEnvironment_eq, limits_forget]
    rcases environmentData? s.limits.dialect environment with m | _ | data <;> exact ⟨rfl, rfl⟩
  | set key v => exact (s.agree_set key v).answered _
  | get | getInt | getBool | has | item | part | all => exact (agree_ask h _).answered _

/-- No operation leaves a stale table behind. -/
theorem current_perform (h : s.Current) (op : Operation) : (s.perform op).2.Current := by
  cases op with
  | create defaults => cases defaults <;> exact current_of_view_eq_none rfl
  | addLayer => exact current_of_view_eq_none rfl
  | addFile file =>
    cases file with
    | none => exact h
    | some file => exact current_of_view_eq_none rfl
  | addEnvironment environment =>
    simp only [perform, addEnvironment_eq]
    rcases environmentData? s.limits.dialect environment with m | _ | data
    · exact h
    · exact h
    · exact current_of_view_eq_none rfl
  | set key v => exact current_set h key v
  | get | getInt | getBool | has | item | part | all => exact current_ask h _

theorem current_performAll (h : s.Current) (ops : List Operation) : (s.performAll ops).Current := by
  induction ops generalizing s with
  | nil => exact h
  | cons op ops ih => exact ih (current_perform h op)

/-- Settings that operations lead to. -/
def Reached (s : Settings) : Prop := ∃ limits ops, (empty limits).performAll ops = s

theorem reached_empty (limits : Limits) : (empty limits).Reached := ⟨limits, [], rfl⟩

theorem performAll_append (s : Settings) (ops ops' : List Operation) :
    s.performAll (ops ++ ops') = (s.performAll ops).performAll ops' := by
  induction ops generalizing s with
  | nil => rfl
  | cons op ops ih => exact ih _

theorem Reached.perform (h : s.Reached) (op : Operation) : (s.perform op).2.Reached := by
  obtain ⟨limits, ops, rfl⟩ := h
  exact ⟨limits, ops ++ [op], performAll_append _ ops [op]⟩

theorem Reached.current (h : s.Reached) : s.Current := by
  obtain ⟨limits, ops, rfl⟩ := h
  exact current_performAll (current_empty limits) ops

theorem answers_eq_answersAfresh {s' : Settings} (h : s.Current) (hf : s.forget = s'.forget)
    (ops : List Operation) : s.answers ops = s'.answersAfresh ops := by
  induction ops generalizing s s' with
  | nil => rfl
  | cons op ops ih =>
    obtain ⟨ho, hfs⟩ := hf ▸ agree_perform h op
    rw [answers, answersAfresh, ho, ih (current_perform h op) hfs]

def lowerPort : Layer := ⟨"base", .table [("dev", .table [("port", .integer 8080)])], 0⟩

def upperPort : Layer := ⟨"runtime", .table [("dev", .table [("port", .integer 3000)])], 1000⟩

/-- Reads before a write that covers a number, after it, and after one that is refused. -/
def covering : List Operation :=
  [.addLayer "base" lowerPort.data 0, .get "dev.port" .null, .set "dev.port" (.integer 3000),
    .get "dev.port" .null, .set "dev.port.x" .null, .get "dev.port" .null]

theorem perform_get_lowerPort : perform ⟨ample, [lowerPort], none⟩ (.get "dev.port" .null) =
    (.ok (.value (.integer 8080)),
      ⟨ample, [lowerPort], some [("dev", .table [("port", .integer 8080)])]⟩) := by
  have hm : merged ample.levels [lowerPort] = .ok [("dev", .table [("port", .integer 8080)])] := by
    rw [merged, ranked, List.mergeSort_singleton]
    rfl
  simp only [perform, get, ask, hm]
  rfl

theorem perform_get_upperPort :
    perform ⟨ample, [lowerPort, upperPort], none⟩ (.get "dev.port" .null) =
      (.ok (.value (.integer 3000)),
        ⟨ample, [lowerPort, upperPort], some [("dev", .table [("port", .integer 3000)])]⟩) := by
  have hm : merged ample.levels [lowerPort, upperPort] =
      .ok [("dev", .table [("port", .integer 3000)])] := by
    rw [merged, ranked, List.mergeSort_of_pairwise (by decide)]
    rfl
  simp only [perform, get, ask, hm]
  rfl

end SceneMarkup.Settings
