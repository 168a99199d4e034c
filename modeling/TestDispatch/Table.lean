import TestDispatch.Text.Wrap
/-!
# Tables for the terminal

A table has a header, rows of cells and a footer. `Table.render` draws it in light box-drawing
lines:

```
┌───┬──────┐
│ # │ NAME │
├───┼──────┤
│ 1 │ a    │
├───┼──────┤
│   │ 1    │
└───┴──────┘
```

* The header and the footer are written in upper case.
* A column is as wide as its widest line, or as its limit if it has one and that is smaller;
  within a limit a cell is wrapped softly (`Wrap.soft`), and a row of several lines keeps its
  cells at the top.
* A column whose row cells all hold numbers is aligned to the right, header and footer
  included (so is every column of a table with no rows); other columns are aligned to the left.
* Tabs become four blanks and carriage returns are dropped.

`Table.renderCsv` writes the same cells, header and footer as they are, as comma-separated
lines; a cell holding a quote, a comma or a line end is quoted, with `\"` for a quote.
-/

namespace TestDispatch

/-- A cell: its text and whether it holds a number. -/
structure Cell where
  text : String
  numeric : Bool := false
  deriving DecidableEq, Repr, Inhabited

/-- A cell holding a number. -/
def Cell.ofNat (n : Nat) : Cell := { text := toString n, numeric := true }

/-- A cell holding a text. -/
def Cell.ofString (s : String) : Cell := { text := s }

/-- A table. -/
structure Table where
  header : List String
  rows : List (List Cell)
  footer : List String := []
  /-- The widest some columns may be, by column index. -/
  limits : List (Nat × Nat) := []
  deriving DecidableEq, Repr, Inhabited

namespace Table

/-- A cell's text as the table shows it: tabs as four blanks, carriage returns dropped. -/
def clean (s : String) : String := (s.replace "\t" "    ").replace "\r" ""

/-- The number of columns. -/
def columns (t : Table) : Nat :=
  ((t.header.length :: t.footer.length :: t.rows.map List.length)).foldl max 0

/-- The limit of a column, if it has one. -/
def limit (t : Table) (i : Nat) : Option Nat := (t.limits.find? (·.1 = i)).map (·.2)

/-- Whether every row cell of a column holds a number. -/
def numericColumn (t : Table) (i : Nat) : Bool :=
  t.rows.all fun r => match r[i]? with
    | some c => c.numeric
    | none => true

/-- The texts of all lines of the table, header and footer included. -/
def texts (t : Table) : List (List String) :=
  t.header :: t.rows.map (·.map Cell.text) ++ [t.footer]

/-- The width of a column. -/
def width (t : Table) (i : Nat) : Nat :=
  let widest := (t.texts.map fun r => Width.longestLine (clean (r.getD i ""))).foldl max 0
  match t.limit i with
  | some l => min widest l
  | none => widest

/-- A text aligned in `width` columns: to the left, or to the right. -/
def align (right : Bool) (width : Nat) (s : String) : String :=
  if right then
    let s := String.ofList (s.toList.dropWhile (· = ' '))
    "".pushn ' ' (width - Width.ofString s) ++ s
  else
    let s := String.ofList (s.toList.reverse.dropWhile (· = ' ')).reverse
    s.pushn ' ' (width - Width.ofString s)

/-- The width and the alignment of each column, worked out once for the whole table. -/
structure Layout where
  widths : List Nat
  right : List Bool
  deriving DecidableEq, Repr, Inhabited

/-- The layout of a table. -/
def layout (t : Table) : Layout :=
  { widths := (List.range t.columns).map t.width, right := (List.range t.columns).map t.numericColumn }

/-- A line of separators: `left`, the columns' rules joined by `middle`, `right`. -/
def rule (l : Layout) (left middle right : String) : String :=
  left ++ middle.intercalate (l.widths.map fun w => "".pushn '─' (w + 2)) ++ right

/-- The lines a row takes; `upper` writes it in upper case. -/
def rowLines (t : Table) (l : Layout) (upper : Bool) (cells : List String) : List String :=
  let cols := (List.range l.widths.length).zip (l.widths.zip l.right)
  let wrapped := cols.map fun (i, w, _) =>
    let s := clean (cells.getD i "")
    let s := match t.limit i with
      | some m => Wrap.soft s m
      | none => if w = 0 then "" else s
    s.splitOn "\n"
  let height := (wrapped.map List.length).foldl max 1
  (List.range height).map fun k =>
    let parts := (cols.zip wrapped).map fun ((_, w, right), ls) =>
      let s := ls.getD k ""
      let s := if upper then s.toUpper else s
      " " ++ align right w s ++ " "
    "│" ++ "│".intercalate parts ++ "│"

/-- The table drawn with box-drawing lines. -/
def render (t : Table) : String :=
  if t.columns = 0 then ""
  else
    let l := t.layout
    let body :=
      [rule l "┌" "┬" "┐"] ++
        (if t.header.isEmpty then [] else t.rowLines l true t.header ++ [rule l "├" "┼" "┤"]) ++
        t.rows.flatMap (fun r => t.rowLines l false (r.map Cell.text)) ++
        (if t.footer.isEmpty then [] else [rule l "├" "┼" "┤"] ++ t.rowLines l true t.footer) ++
        [rule l "└" "┴" "┘"]
    "\n".intercalate body

/-- A cell as a comma-separated field. -/
def csvField (s : String) : String :=
  if s.any (fun c => c = '"' || c = ',' || c = '\n') then
    "\"" ++ String.join (s.toList.map fun c => if c = '"' then "\\\"" else String.singleton c) ++ "\""
  else s

/-- The table as comma-separated lines. -/
def renderCsv (t : Table) : String :=
  if t.columns = 0 then ""
  else
    let line (cells : List String) := ",".intercalate (cells.map fun s => csvField (clean s))
    let rows := [t.header] ++ t.rows.map (·.map Cell.text) ++ (if t.footer.isEmpty then [] else [t.footer])
    "\n".intercalate (rows.map line)

end Table

end TestDispatch
