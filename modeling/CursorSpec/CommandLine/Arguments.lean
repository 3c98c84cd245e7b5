/-
Command line arguments: options and what is left besides them.

Long options take their value after an equals sign or from the next argument, short ones from the rest of their
argument or the next one, and several short ones may share an argument. A double hyphen ends the options. Of options
given several times the last one counts.
-/
import CursorSpec.Text.Basic

namespace CursorSpec.CommandLine

structure OptionForm where
  long : Text
  short : Option Char
  takesValue : Bool
  deriving DecidableEq, Inhabited

/-- parsed arguments -/
structure Parsed where
  /-- options by their long names; flags have an empty value -/
  options : List (Text × Text)
  arguments : List Text
  deriving DecidableEq, Inhabited

namespace Parsed

def withOption (p : Parsed) (name value : Text) : Parsed := { p with options := (name, value) :: p.options }

def option? (p : Parsed) (name : Text) : Option Text := (p.options.find? fun o => o.1 = name).map (·.2)

def has (p : Parsed) (name : Text) : Bool := (p.option? name).isSome

end Parsed

/-- short options that share an argument; what is left of the arguments -/
def takeShort (forms : List OptionForm) (p : Parsed) :
    (letters : Text) → (rest : List Text) → Option (Parsed × List Text)
  | [], rest => some (p, rest)
  | c :: cs, rest => do
    let form ← forms.find? fun f => f.short = some c
    if !form.takesValue then takeShort forms (p.withOption form.long []) cs rest
    else if !cs.isEmpty then return (p.withOption form.long cs, rest)
    else match rest with
      | v :: rest => return (p.withOption form.long v, rest)
      | [] => none

def takeOption (forms : List OptionForm) (p : Parsed) (arg : Text) (rest : List Text) : Option (Parsed × List Text) :=
  let name := arg.takeWhile (· ≠ '=')
  let value? := (Text.cutAt? '=' arg).map (·.2)
  match forms.find? fun f => '-' :: '-' :: f.long = name with
  | some form =>
    if form.takesValue then
      match value?, rest with
      | some v, rest => some (p.withOption form.long v, rest)
      | none, v :: rest => some (p.withOption form.long v, rest)
      | none, [] => none
    else if value?.isSome then none
    else some (p.withOption form.long [], rest)
  | none => if Text.startsWith arg "--" then none else takeShort forms p (arg.drop 1) rest

/-- arguments one after the other; unless they may be mixed, the first one that is no option ends the options -/
def parseFrom (forms : List OptionForm) (mixed : Bool) : (fuel : Nat) → Parsed → List Text → Option Parsed
  | 0, _, _ => none
  | _, p, [] => some p
  | fuel + 1, p, arg :: rest =>
    if arg = "--" then some { p with arguments := p.arguments ++ rest }
    else if arg.head? = some '-' && 1 < arg.length then do
      let (p, rest) ← takeOption forms p arg rest
      parseFrom forms mixed fuel p rest
    else if mixed then parseFrom forms mixed fuel { p with arguments := p.arguments ++ [arg] } rest
    else some { p with arguments := p.arguments ++ arg :: rest }

/-- the options and arguments of a command; `none` if they are not what it takes -/
def parse (forms : List OptionForm) (mixed : Bool) (args : List Text) : Option Parsed :=
  parseFrom forms mixed (args.length + 1) ⟨[], []⟩ args

end CursorSpec.CommandLine
