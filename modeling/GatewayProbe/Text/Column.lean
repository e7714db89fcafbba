/-!
# Columns of fixed width

A cell shorter than its column is filled with spaces on one side; a longer one is
kept whole. Width is counted in characters.
-/

namespace GatewayProbe.Text

/-- The spaces that fill a cell to its width. -/
def filling (width : Nat) (cell : String) : String :=
  String.ofList (List.replicate (width - cell.length) ' ')

/-- A cell at the left edge of its column. -/
def alignLeft (width : Nat) (cell : String) : String := cell ++ filling width cell

/-- A cell at the right edge of its column. -/
def alignRight (width : Nat) (cell : String) : String := filling width cell ++ cell

end GatewayProbe.Text
