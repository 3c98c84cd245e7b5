/-
Values written as JSON, on one line or indented. The keys of a mapping become texts.
-/
import CursorSpec.Text.Quoted
import CursorSpec.Value.Display

namespace CursorSpec.Value

/-- a number; those that JSON does not have are written as words -/
def numberText : Binary64 → Text
  | .infinite false => "Infinity"
  | .infinite true => "-Infinity"
  | .nan => "NaN"
  | x => x.text

/-- a key as a text -/
def keyText : Value → Text
  | .str t => t
  | .null => "null"
  | .bool true => "true"
  | .bool false => "false"
  | v => v.display

mutual
/-- a value on one line -/
def json : Value → Text
  | .null => "null"
  | .bool true => "true"
  | .bool false => "false"
  | .int n => Text.ofInt n
  | .float x => numberText x
  | .str t => Text.quote t
  | .date t => Text.quote t
  | .list vs => '[' :: (Text.join "," (jsonAll vs) ++ [']'])
  | .dict es => '\x7b' :: (Text.join "," (jsonEntries es) ++ ['\x7d'])

def jsonAll : List Value → List Text
  | [] => []
  | v :: vs => json v :: jsonAll vs

def jsonEntries : List (Value × Value) → List Text
  | [] => []
  | e :: es => (Text.quote (keyText e.1) ++ ':' :: json e.2) :: jsonEntries es
end

/-- lines between brackets, with commas after all but the last -/
def bracketed (depth : Nat) (opening closing : Char) (parts : List Text) : Text :=
  if parts.isEmpty then [opening, closing]
  else
    let pad := '\n' :: Text.spaces (2 * depth + 2)
    opening :: (pad ++ Text.join (',' :: pad) parts ++ '\n' :: Text.spaces (2 * depth) ++ [closing])

mutual
/-- a value over indented lines, from a depth on -/
def prettyJsonAt (depth : Nat) : Value → Text
  | .list vs => bracketed depth '[' ']' (prettyJsonAll (depth + 1) vs)
  | .dict es => bracketed depth '\x7b' '\x7d' (prettyJsonEntries (depth + 1) es)
  | .null => "null"
  | .bool true => "true"
  | .bool false => "false"
  | .int n => Text.ofInt n
  | .float x => numberText x
  | .str t => Text.quote t
  | .date t => Text.quote t

def prettyJsonAll (depth : Nat) : List Value → List Text
  | [] => []
  | v :: vs => prettyJsonAt depth v :: prettyJsonAll depth vs

def prettyJsonEntries (depth : Nat) : List (Value × Value) → List Text
  | [] => []
  | e :: es => (Text.quote (keyText e.1) ++ ':' :: ' ' :: prettyJsonAt depth e.2) :: prettyJsonEntries depth es
end

/-- a value over indented lines -/
def prettyJson (v : Value) : Text := prettyJsonAt 0 v

end CursorSpec.Value
