/-!
Contract: a grid of texts drawn with cells of one width.

Owns: fitting a text into a cell, and the drawing of a grid whose first row is its
header.

Does not own: where the grid comes from.

Widths count characters. A text that fills the cell is cut like one that overflows
it, so that a text that ends in the mark of a cut and one that was cut differ.
-/

namespace TripleStore.Table

def cutMark : List Char := ['.', '.']

def separator : List Char := [' ', '|', ' ']

/-- The text with blanks up to the width if it is shorter than that. Otherwise its
first `width - 2` characters and the mark of a cut. -/
def fit (width : Nat) (text : List Char) : List Char :=
  if text.length < width then
    text ++ List.replicate (width - text.length) ' '
  else
    text.take (width - cutMark.length) ++ cutMark

def row (width : Nat) (cells : List String) : List Char :=
  (cells.flatMap fun cell => fit width cell.toList ++ separator) ++ ['\n']

def rule (width : Nat) (cellCount : Nat) : List Char :=
  List.replicate ((width + 2) * cellCount) '-' ++ ['\n']

def draw (width : Nat) : List (List String) → List Char
  | [] => []
  | header :: rows =>
      row width header ++ rule width header.length ++ rows.flatMap (row width)

def render (width : Nat) (grid : List (List String)) : String :=
  .ofList (draw width grid)

end TripleStore.Table
