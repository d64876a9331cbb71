import SceneMarkup.CommandLine.Word

/-! # Reading command lines

Options are read in order and take the word after them as their value. Plain words fill the
positional argument as soon as it can take them; what is left over is reported by the caller.
-/

namespace SceneMarkup.CommandLine

inductive Stop where
  /-- The words do not follow the grammar; the text says how. -/
  | misuse (text : String)
  /-- A text was asked for. -/
  | answer (text : String)
  deriving DecidableEq, Repr

/-- What has been read: the values of the targets, the words left over, and whether the positional
argument has been read. -/
structure Reading where
  values : Entries Value
  extras : List String
  filled : Bool

namespace Grammar

def complaint (g : Grammar) (message : String) : String :=
  g.usage ++ g.program ++ ": error: " ++ message ++ "\n"

def misuse (g : Grammar) (message : String) : Stop := .misuse (g.complaint message)

def badArgument (g : Grammar) (name message : String) : Stop :=
  g.misuse ("argument " ++ name ++ ": " ++ message)

def choiceMessage (text : String) (choices : List String) : String :=
  "invalid choice: " ++ Text.Quoted.text text ++ " (choose from " ++
    ", ".intercalate (choices.map Text.Quoted.text) ++ ")"

section Options

/-- The value of an option from the word given for it. A mark is no value: nothing is left, and
nothing is checked. -/
def valueOf (g : Grammar) (o : OptionRule) (text : String) : Except Stop Value :=
  if text = Word.mark.text then .ok (.list [])
  else match o.effect with
  | .number => match Number.readInt text with
    | some i => .ok (.integer i)
    | none => .error (g.badArgument o.shownName ("invalid int value: " ++ Text.Quoted.text text))
  | .word choices =>
      if choices.isEmpty || choices.contains text then .ok (.text text)
      else .error (g.badArgument o.shownName (choiceMessage text choices))
  | _ => .ok (.bool true)

def perform (g : Grammar) (version : String) (r : Reading) :
    OptionRule × Option String → Except Stop Reading
  | (o, value) => match o.effect with
    | .help => .error (.answer g.help)
    | .version => .error (.answer version)
    | _ => match g.valueOf o (value.getD "") with
      | .ok v => .ok { r with values := r.values.put o.target v }
      | .error stop => .error stop

/-- What a word of options amounts to: the options with their values, and the words after it. -/
structure Spelled where
  options : List (OptionRule × Option String)
  rest : List Word

/-- An option with the value that the next word gives, if it takes one. -/
def withNextWord (g : Grammar) (o : OptionRule) (rest : List Word) : Except Stop Spelled :=
  if o.takesValue then
    match rest with
    | .plain text :: rest' => .ok ⟨[(o, some text)], rest'⟩
    | _ => .error (g.badArgument o.shownName "expected one argument")
  else .ok ⟨[(o, none)], rest⟩

def ignored (g : Grammar) (o : OptionRule) (attached : List Char) : Stop :=
  g.badArgument o.shownName
    ("ignored explicit argument " ++ Text.Quoted.text (String.ofList attached))

/-- A short option with more characters attached: its value, or more short options. -/
def withAttached (g : Grammar) (rest : List Word) :
    OptionRule → (attached : List Char) → Except Stop Spelled
  | o, [] => if o.takesValue then .ok ⟨[(o, some "")], rest⟩ else .error (g.ignored o [])
  | o, c :: cs =>
      if o.takesValue then .ok ⟨[(o, some (String.ofList (c :: cs)))], rest⟩
      else match g.option? (String.ofList ['-', c]) with
        | none => .error (g.ignored o (c :: cs))
        | some next =>
            let spelled :=
              if cs.isEmpty then g.withNextWord next rest else g.withAttached rest next cs
            spelled.map fun s => { s with options := (o, none) :: s.options }

def isShort (name : String) : Bool :=
  match name.toList with
  | '-' :: c :: _ => c != '-'
  | _ => false

/-- The options that a word stands for. Nothing but a value is attached to a long option. -/
def spelled (g : Grammar) (o : OptionRule) (given : Given) (rest : List Word) :
    Except Stop Spelled :=
  match given.attached with
  | none => g.withNextWord o rest
  | some text =>
      if isShort given.name then g.withAttached rest o text
      else if o.takesValue then .ok ⟨[(o, some (String.ofList text))], rest⟩
      else .error (g.ignored o text)

end Options

section Positionals

/-- The words at the front that a positional argument takes, and the rest. -/
def taken (arity : Arity) (ws : List Word) : Option (List Word × List Word) :=
  let marks := ws.takeWhile (·.isMark)
  match ws.drop marks.length with
  | .plain text :: rest => match arity with
    | .command _ => some (ws, [])
    | .atLeastOne =>
        let more := rest.takeWhile (!·.isOption)
        some (marks ++ .plain text :: more, rest.drop more.length)
    | .one | .atMostOne =>
        let after := rest.takeWhile (·.isMark)
        some (marks ++ .plain text :: after, rest.drop after.length)
  | rest => match arity with
    | .atMostOne => some (marks, rest)
    | _ => none

def fill (g : Grammar) (r : Reading) (p : PositionalRule) (texts : List String) :
    Except Stop Reading :=
  let set (v : Value) : Reading := { r with values := r.values.put p.target v, filled := true }
  match p.arity with
  | .command choices =>
      let name := texts.headD ""
      if choices.contains name then .ok (set (.list (texts.map .text)))
      else .error (g.badArgument p.target (choiceMessage name choices))
  | .atLeastOne => .ok (set (.list ((texts.erase Word.mark.text).map .text)))
  | .one => .ok (set (.text ((texts.erase Word.mark.text).headD "")))
  | .atMostOne => match texts.erase Word.mark.text with
    | [] => .ok { r with filled := true }
    | text :: _ => .ok (set (.text text))

def fillFrom (g : Grammar) (r : Reading) (ws : List Word) : Except Stop (Reading × List Word) :=
  match g.positional with
  | none => .ok (r, ws)
  | some p =>
      if r.filled then .ok (r, ws)
      else match taken p.arity ws with
        | none => .ok (r, ws)
        | some (mine, rest) => match g.fill r p (mine.map (·.text)) with
          | .ok r' => .ok (r', rest)
          | .error stop => .error stop

end Positionals

def readWords (g : Grammar) (version : String) : (fuel : Nat) → Reading → List Word →
    Except Stop Reading
  | 0, r, ws => .ok { r with extras := r.extras ++ ws.map (·.text) }
  | fuel + 1, r, ws =>
      match ws with
      | .option text given :: rest => match given.rule with
        | none => g.readWords version fuel { r with extras := r.extras ++ [text] } rest
        | some o => match g.spelled o given rest with
          | .error stop => .error stop
          | .ok s => match s.options.foldlM (g.perform version) r with
            | .error stop => .error stop
            | .ok r' => g.readWords version fuel r' s.rest
      | _ => match g.fillFrom r ws with
        | .error stop => .error stop
        | .ok (r', rest) =>
            if rest.any (·.isOption) then
              let left := rest.takeWhile (!·.isOption)
              g.readWords version fuel { r' with extras := r'.extras ++ left.map (·.text) }
                (rest.drop left.length)
            else .ok { r' with extras := r'.extras ++ rest.map (·.text) }

def checkFilled (g : Grammar) (r : Reading) : Except Stop Reading :=
  match g.positional with
  | some p =>
      if p.arity.isRequired && !r.filled then
        .error (g.misuse ("the following arguments are required: " ++ p.target))
      else .ok r
  | none => .ok r

/-- Read a command line; the version is the text that a program answers with. -/
def read (g : Grammar) (version : String) (args : List String) : Except Stop Reading :=
  match g.words args with
  | .error message => .error (g.misuse message)
  | .ok ws => match g.readWords version (2 * ws.length + 1) ⟨g.defaults, [], false⟩ ws with
    | .ok r => g.checkFilled r
    | .error stop => .error stop

end Grammar

end SceneMarkup.CommandLine
