import SessionBoard.Text.Width

namespace SessionBoard.Text

/-- The longest start of a text that leaves room for an ellipsis, `used` columns being taken. -/
def keepWithin (width : Nat) : (used : Nat) → List Char → List Char
  | _, [] => []
  | used, char :: text =>
    let used := used + Width.ofChar char
    if used + 1 > width then [] else char :: keepWithin width used text

def truncate (text : List Char) (width : Nat) : List Char :=
  if Width.ofText text ≤ width then text
  else if width = 0 then []
  else if width = 1 then ['…']
  else keepWithin width 0 text ++ ['…']

/-- A text truncated to a width and filled up with blanks. -/
def fit (text : List Char) (width : Nat) : List Char :=
  let kept := truncate text width
  kept ++ List.replicate (width - Width.ofText kept) ' '

/-- The index of the character at a column, or their number past the end. Cells are laid out in columns but
selected in characters. -/
def charIndexAt : List Char → (column : Nat) → Nat
  | [], _ => 0
  | char :: text, column =>
    let width := Width.ofChar char
    if column < width then 0 else charIndexAt text (column - width) + 1

def slice (text : List Char) (start stop : Nat) : List Char :=
  (text.drop start).take (stop - start)

end SessionBoard.Text
