/-
Blank characters: the spaces of every script, the line and paragraph separators, and the ASCII controls that
separate fields.
-/
import CursorSpec.Text.Basic

namespace CursorSpec.Text

/-- the code points that count as white space -/
def blanks : List Nat :=
  [0x9, 0xa, 0xb, 0xc, 0xd, 0x1c, 0x1d, 0x1e, 0x1f, 0x20, 0x85, 0xa0, 0x1680, 0x2000, 0x2001, 0x2002, 0x2003, 0x2004,
    0x2005, 0x2006, 0x2007, 0x2008, 0x2009, 0x200a, 0x2028, 0x2029, 0x202f, 0x205f, 0x3000]

def isBlank (c : Char) : Bool := blanks.contains c.toNat

/-- white space at both ends removed -/
def strip (t : Text) : Text := trim isBlank t

/-- every run of white space replaced by one hyphen -/
def hyphenate : Text → Text
  | [] => []
  | c :: t =>
    if isBlank c then (if t.head?.any isBlank then hyphenate t else '-' :: hyphenate t) else c :: hyphenate t

end CursorSpec.Text
