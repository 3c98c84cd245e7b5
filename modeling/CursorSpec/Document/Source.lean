/-
The expression that rebuilds a document state, laid out over lines for a statement at a given indentation.

A text of one line is one literal; longer texts are adjacent literals, one a line, each with its line feed.
-/
import CursorSpec.Document.Basic
import CursorSpec.Text.Quoted

namespace CursorSpec

namespace Position

def arguments (p : Position) : Text := Text.ofInt p.line ++ ", " ++ Text.ofInt p.character

end Position

namespace Selection

/-- the expression that rebuilds a selection -/
def source (s : Selection) : Text :=
  if s.isCaret then "Selection.caret(" ++ s.active.arguments ++ ")"
  else "Selection.span(" ++ s.anchor.arguments ++ ", " ++ s.active.arguments ++ ")"

end Selection

namespace Text

/-- the lines of a text, each with the line feed that ends it; an empty last line is left out -/
def pieces (t : Text) : List Text :=
  let ls := lines t
  ls.dropLast.map (· ++ ['\n']) ++ (ls.drop (ls.length - 1)).filter (! ·.isEmpty)

end Text

namespace DocState

/-- the lines of the expression that rebuilds a state; the first is not indented -/
def sourceLines (s : DocState) (indent : Int) : List Text :=
  let pad := Text.spaces (indent + 4).toNat
  let text : List Text :=
    if s.text.contains '\n' then
      [pad ++ "text=("] ++ (Text.pieces s.text).map (fun p => pad ++ Text.spaces 4 ++ Text.quote p) ++ [pad ++ "),"]
    else [pad ++ "text=" ++ Text.quote s.text ++ ","]
  let selections : List Text :=
    if s.selections.isEmpty then []
    else [pad ++ "selections=("] ++ s.selections.map (fun x => pad ++ Text.spaces 4 ++ x.source ++ ",") ++ [pad ++ "),"]
  let opening : Text := "DocumentState("
  [opening] ++ text ++ selections ++ [Text.spaces indent.toNat ++ ")"]

/-- the expression that rebuilds a state -/
def source (s : DocState) (indent : Int) : Text := Text.unlines (s.sourceLines indent)

end DocState

end CursorSpec
