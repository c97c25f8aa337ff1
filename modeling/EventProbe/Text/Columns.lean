/-!
# Columns

Text in two columns.
-/

namespace EventProbe.Text

def aligned (width : Nat) (text : String) : String :=
  text ++ String.ofList (List.replicate (width - text.length) ' ')

/-- A row of two columns, indented, the first of a width. -/
def row (width : Nat) (left right : String) : String :=
  "  " ++ aligned width left ++ right

/-- The rows below a heading. The first column is as wide as its widest entry. -/
def table (heading : String) (rows : List (String × String)) : String :=
  let width := rows.foldl (fun w (left, _) => max w left.length) 0
  "\n".intercalate (heading :: rows.map fun (left, right) => row (width + 2) left right)

end EventProbe.Text
