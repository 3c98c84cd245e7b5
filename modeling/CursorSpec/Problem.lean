/-
What can be wrong with a spec, and how it is reported.

A `Problem` is a cause and the line it is about; its title, kind, wording and suggestions follow from the cause alone.
-/
import CursorSpec.Document.Marker

namespace CursorSpec

/-- a message to be shown: a summary, a place and suggested remedies -/
structure Report where
  summary : Text
  line : Option Int
  suggestions : List Text
  deriving DecidableEq, Inhabited

namespace Report

/-- suggestions numbered from one -/
def numbered (suggestions : List Text) : List Text :=
  suggestions.mapIdx fun i s => "  " ++ Text.ofNat (i + 1) ++ ". " ++ s

def messageLines (r : Report) : List Text :=
  [r.summary] ++ (r.line.map fun n => "  at line " ++ Text.ofInt n).toList ++
    (if r.suggestions.isEmpty then [] else [[], "Suggestions:"] ++ numbered r.suggestions)

def message (r : Report) : Text := Text.unlines r.messageLines

end Report

/-- the kinds of problems; `internal` is none of the documented ones -/
inductive ProblemKind where
  | parse
  | marker
  | duplicateTitle
  | unknownDependency
  | unrecognizedFlag
  | invalidOperation
  | internal
  deriving DecidableEq, Inhabited

inductive Cause where
  /-- the last entry has no closed fenced block -/
  | unclosedEntry
  /-- some header lines are no entries -/
  | entryCount (headers entries : Nat)
  /-- wrong markers in a document that is read by itself -/
  | marker (problem : MarkerProblem)
  /-- wrong markers in the block of an entry -/
  | entryMarker (title : Text) (problem : MarkerProblem)
  | duplicateInitial (title : Text)
  | duplicateTest (title : Text)
  | unknownDependency (title comesAfter : Text) (suggestion : Option Text)
  | unrecognizedFlag (flag title : Text)
  /-- a line that types nothing readable -/
  | unreadableTyping (line title : Text)
  | typingLength (command title : Text)
  | typingArguments (command title : Text)
  | badArguments (command title : Text)
  /-- arguments with a zero character, which the expression reader refuses to look at -/
  | nulArguments (command title : Text)
  /-- a typed character with no operation before it -/
  | nothingToJoin (command title : Text)
  deriving DecidableEq, Inhabited

namespace Cause

def kind : Cause → ProblemKind
  | .unclosedEntry | .entryCount .. => .parse
  | .marker _ | .entryMarker .. => .marker
  | .duplicateInitial _ | .duplicateTest _ => .duplicateTitle
  | .unknownDependency .. => .unknownDependency
  | .unrecognizedFlag .. => .unrecognizedFlag
  | .unreadableTyping .. | .typingLength .. | .typingArguments .. | .badArguments .. | .nothingToJoin .. =>
    .invalidOperation
  | .nulArguments .. => .internal

/-- the title of the entry that a problem is about -/
def title? : Cause → Option Text
  | .unclosedEntry | .entryCount .. | .marker _ => none
  | .entryMarker t _ | .duplicateInitial t | .duplicateTest t | .unknownDependency t .. | .unrecognizedFlag _ t
  | .unreadableTyping _ t | .typingLength _ t | .typingArguments _ t | .badArguments _ t | .nulArguments _ t
  | .nothingToJoin _ t => some t

/-- a text between double quotes, as it is -/
def named (t : Text) : Text := '\"' :: (t ++ ['\"'])

def summary : Cause → Text
  | .unclosedEntry => "unexpected end of file: an entry has no closed fenced block"
  | .entryCount headers entries =>
    "not all entries were parsed: found " ++ Text.ofNat headers ++ " headers but " ++ Text.ofNat entries ++ " entries"
  | .marker p => p.message
  | .entryMarker t p => "invalid cursor markers in " ++ named t ++ ": " ++ p.message
  | .duplicateInitial t => "initial document state " ++ named t ++ " is defined multiple times"
  | .duplicateTest t => "test " ++ named t ++ " reuses a title that is already defined"
  | .unknownDependency t after _ => "test " ++ named t ++ " depends on unknown test " ++ named after
  | .unrecognizedFlag flag t => "unrecognized flag " ++ named flag ++ " in " ++ named t
  | .unreadableTyping line t => "cannot parse " ++ named line ++ " in " ++ named t
  | .typingLength c t => named c ++ " in " ++ named t ++ " must type exactly one character"
  | .typingArguments c t => named c ++ " in " ++ named t ++ " takes no arguments"
  | .badArguments c t => "invalid arguments for " ++ named c ++ " in " ++ named t ++ ": <python syntax error>"
  | .nulArguments c t => "unreadable arguments for " ++ named c ++ " in " ++ named t
  | .nothingToJoin c t => named c ++ " in " ++ named t ++ " must follow another operation"

def suggestions : Cause → List Text
  | .unclosedEntry => ["Close the fenced block of the last entry with a ``` line"]
  | .entryCount .. =>
    ["Check that every entry ends with a closed ``` block",
      "Lines starting with '# ' are only allowed as entry headers"]
  | .unknownDependency _ _ s => s.toList
  | .unrecognizedFlag .. =>
    ["Flags have the form '<mode>.behavior <- caret|character' with <mode> one of: insert, normal"]
  | .unreadableTyping .. => ["Write one non-space character right after 'type:', e.g. '- type:('"]
  | .badArguments .. => ["Arguments are inserted verbatim and must be a Python expression"]
  | _ => []

/-- whether the report gives a column: the first, where the file ends inside an entry -/
def column? : Cause → Option Nat
  | .unclosedEntry => some 1
  | _ => none

end Cause

/-- a cause and the line it is about, counted from one -/
structure Problem where
  cause : Cause
  line : Option Int
  deriving DecidableEq, Inhabited

namespace Problem

def report (p : Problem) : Report := ⟨p.cause.summary, p.line, p.cause.suggestions⟩

def message (p : Problem) : Text := p.report.message

end Problem

end CursorSpec
