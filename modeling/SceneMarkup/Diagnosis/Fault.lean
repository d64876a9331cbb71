import SceneMarkup.Source.Location
import SceneMarkup.Source.Token

/-! # Faults

A source is refused for one of a closed list of reasons. A fault says what is wrong at a place of a
source. Its reason, its message and the label of what was being read follow from it.
-/

namespace SceneMarkup

inductive Reason where
  | unexpectedCharacter
  | captureFailed
  | mismatchedClosingTag
  | unclosedTag
  | missingClosingTag
  | unterminatedScript
  | unterminatedBinding
  | unsupportedTemplateLiteral
  | expectedAttributeValue
  | duplicateAttribute
  | duplicateBinding
  deriving DecidableEq, Repr

namespace Reason

/-- The code of a reason in reports. -/
def code : Reason → String
  | unexpectedCharacter => "UnexpectedCharacter"
  | captureFailed => "CaptureFailed"
  | mismatchedClosingTag => "MismatchedClosingTag"
  | unclosedTag => "UnclosedTag"
  | missingClosingTag => "MissingClosingTag"
  | unterminatedScript => "UnterminatedScript"
  | unterminatedBinding => "UnterminatedBinding"
  | unsupportedTemplateLiteral => "UnsupportedTemplateLiteral"
  | expectedAttributeValue => "ExpectedAttributeValue"
  | duplicateAttribute => "DuplicateAttribute"
  | duplicateBinding => "DuplicateBinding"

def all : List Reason :=
  [unexpectedCharacter, captureFailed, mismatchedClosingTag, unclosedTag, missingClosingTag,
    unterminatedScript, unterminatedBinding, unsupportedTemplateLiteral, expectedAttributeValue,
    duplicateAttribute, duplicateBinding]

end Reason

/-- What a reader found instead of the format. -/
inductive Fault where
  | strayText
  | noTagName
  | noTagEnd
  | noShorthandEnd
  | unmatched (token : Token) (label : String)
  | closingUnopened (name : String)
  | closingOther (name innermost : String)
  | unclosed (name : String)
  | unfinished (name : String)
  | unfollowed (name : String)
  | openScript (terminator : String)
  | openBinding
  | templateLiteral
  | noValue (name : String)
  | attributeTwice (name : String)
  | bindingTwice (name : String)
  deriving DecidableEq, Repr

namespace Fault

def reason : Fault → Reason
  | strayText | noTagName | noTagEnd | noShorthandEnd => .unexpectedCharacter
  | unmatched .. => .captureFailed
  | closingUnopened _ | closingOther .. => .mismatchedClosingTag
  | unclosed _ | unfinished _ => .unclosedTag
  | unfollowed _ => .missingClosingTag
  | openScript _ => .unterminatedScript
  | openBinding => .unterminatedBinding
  | templateLiteral => .unsupportedTemplateLiteral
  | noValue _ => .expectedAttributeValue
  | attributeTwice _ => .duplicateAttribute
  | bindingTwice _ => .duplicateBinding

def message : Fault → String
  | strayText => "Unexpected character"
  | noTagName => "Expected tag name after <"
  | noTagEnd => "Expected >"
  | noShorthandEnd => "Expected \x7d to complete shorthand binding"
  | unmatched token label => "Failed to capture " ++ label ++ " with pattern: " ++ token.pattern
  | closingUnopened name => "Closing tag </" ++ name ++ "> before any tag has been opened"
  | closingOther name innermost => "Closing tag </" ++ name ++ "> before </" ++ innermost ++ ">"
  | unclosed name => "Unclosed tag <" ++ name ++ ">"
  | unfinished name => "Unexpected end of input inside <" ++ name ++ "> tag"
  | unfollowed name =>
      "Missing closing tag for <" ++ name ++ ">. Did you mean to use />?"
  | openScript terminator => "Expected " ++ terminator ++ " before end of input"
  | openBinding => "Expected \x7d to close binding before end of input"
  | templateLiteral => "Template strings are not supported yet"
  | noValue name => "Expected value after " ++ name ++ "="
  | attributeTwice name => "Attribute " ++ name ++ " already set"
  | bindingTwice name => "Binding " ++ name ++ " already set"

/-- What was being read when no token matched. -/
def label? : Fault → Option String
  | unmatched _ label => some label
  | _ => none

end Fault

structure Failure where
  fault : Fault
  place : Location
  deriving DecidableEq, Repr

/-- What stops a reader: a failure to report, or a character taken for a quote that is none. -/
inductive Stop where
  | failure (f : Failure)
  | noQuote (found : Option Char)
  deriving DecidableEq, Repr

/-- Stop for a fault at a place. -/
def Fault.stop {α : Type} (fault : Fault) (place : Location) : Except Stop α :=
  .error (.failure ⟨fault, place⟩)

end SceneMarkup
