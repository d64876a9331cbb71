import SceneMarkup.Build.Message
import SceneMarkup.Text.Lines

/-! # Reports on a terminal

A style wraps text in escape sequences, on a stream that shows them. A report shows the message
under a badge, the location, and the excerpt with its caret marked and the surrounding lines dimmed.
-/

namespace SceneMarkup.Terminal

/-! ### Styles -/

inductive Code where
  | reset
  | bold
  | dim
  | red
  | yellow
  | cyan
  | errorBadge
  deriving DecidableEq, Repr

def Code.text : Code → String
  | reset => "\x1b[0m"
  | bold => "\x1b[1m"
  | dim => "\x1b[2m"
  | red => "\x1b[31m"
  | yellow => "\x1b[33m"
  | cyan => "\x1b[36m"
  | errorBadge => "\x1b[41m\x1b[30m\x1b[1m"

def paint (colors : Bool) (codes : List Code) (s : String) : String :=
  if !colors || s.isEmpty then s
  else String.join (codes.map Code.text) ++ s ++ Code.reset.text

/-! ### Reports -/

def isCaretLine (line : List Char) : Bool :=
  let inner := Text.trimWhile Text.isBlank line
  inner.head? == some '|' && inner.getLast? == some '^'

/-- The marked line stays as it is; the caret is highlighted and all else dimmed. -/
def paintLine (colors : Bool) (line : List Char) : String :=
  if line.head? == some '>' then String.ofList line
  else if isCaretLine line then
    paint colors [.dim] (String.ofList line.dropLast) ++ paint colors [.red, .bold] "^"
  else paint colors [.dim] (String.ofList line)

def paintExcerpt (colors : Bool) (excerpt : String) : String :=
  "\n".intercalate ((Text.lines excerpt.toList).map (paintLine colors))

def report (colors : Bool) (message : String) (path : Option String)
    (place : Option (String × String)) (excerpt : String) : String :=
  let badge := paint colors [.errorBadge] " ERROR " ++ " " ++ message
  let shown := paint colors [.cyan] (shownPath path)
  let location := match place with
    | some (line, column) =>
        shown ++ ":" ++ paint colors [.yellow] line ++ ":" ++ paint colors [.yellow] column
    | none => shown
  let tail := if excerpt.isEmpty then [] else [paintExcerpt colors excerpt]
  "\n".intercalate ([badge, "", location] ++ tail) ++ "\n"

def diagnosisReport (colors : Bool) (d : Diagnosis) : String :=
  report colors d.message d.path (some (toString d.line, toString d.column)) d.excerpt

def messageReport (colors : Bool) (m : Build.Message) : String :=
  report colors m.text m.path (m.line.map fun l => (toString l, Build.numberText m.column))
    m.excerpt

end SceneMarkup.Terminal
