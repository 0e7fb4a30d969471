import Formulary.Decimal.Nearest
import Formulary.Screen.Wrap
import Formulary.Text.Line

set_option autoImplicit false

namespace Formulary.Screen

open Text (width spaces)

structure Column where
  heading : String
  -- Its cells are cut rather than wrapped.
  isUnwrapped : Bool := false

structure Table where
  title : Option (List Char) := none
  columns : List Column
  -- The shown texts of the cells.
  rows : List (List (List Char))

namespace Table

def padding : Nat := 2

def borders (t : Table) : Nat := t.columns.length + 1

def longest (texts : List (List Char)) : Nat := (texts.map width).foldl max 0

def naturalWidth (cell : List Char) : Nat := longest (Text.lines cell)

def cellWidth (room : Nat) (cell : List Char) : Nat :=
  if room ≤ padding then room else min room (naturalWidth cell + padding)

def cellsOf (t : Table) (index : Nat) (column : Column) : List (List Char) :=
  column.heading.toList :: t.rows.map fun row => row[index]?.getD []

def columnWidth (t : Table) (room index : Nat) (column : Column) : Nat :=
  ((t.cellsOf index column).map (cellWidth room)).foldl max 0

def sum (ns : List Nat) : Nat := ns.foldl (· + ·) 0

def halfEven (num den : Nat) : Nat := Decimal.roundDiv num den

-- Takes `total` away from the values by their shares, from each at most what `limits` allows.
def reduceFrom (total shares : Nat) : List (Nat × Nat × Nat) → List Nat
  | [] => []
  | (share, limit, value) :: rest =>
      if share ≠ 0 ∧ shares ≠ 0 then
        let taken := min limit (halfEven (share * total) shares)
        (value - taken) :: reduceFrom (total - taken) (shares - share) rest
      else value :: reduceFrom total shares rest

def reduce (total : Nat) (shares limits values : List Nat) : List Nat :=
  let shares := (shares.zip limits).map fun s => if s.2 = 0 then 0 else s.1
  reduceFrom total (sum shares) (shares.zip (limits.zip values))

-- Takes from the widest columns that may be wrapped, down to the next one, until all fit.
def collapse (wraps : List Bool) (room : Nat) : Nat → List Nat → List Nat
  | 0, widths => widths
  | fuel + 1, widths =>
      let excess := sum widths - room
      let open_ := (wraps.zip widths).map fun c => if c.1 then c.2 else 0
      let widest := open_.foldl max 0
      let second := (open_.map fun w => if w = widest then 0 else w).foldl max 0
      if excess = 0 ∨ widest = second then widths
      else
        let shares := (wraps.zip widths).map fun c => if c.1 && c.2 == widest then 1 else 0
        let limits := widths.map fun _ => min excess (widest - second)
        collapse wraps room fuel (reduce excess shares limits widths)

def indexed {α : Type} (xs : List α) : List (Nat × α) := (List.range xs.length).zip xs

def widths (t : Table) (limit : Nat) : List Nat :=
  let room := limit - t.borders
  let natural := (indexed t.columns).map fun c => max 1 (t.columnWidth room c.1 c.2)
  if sum natural ≤ room then natural
  else
    let wraps := t.columns.map fun c => !c.isUnwrapped
    let narrowed := if wraps.any id then collapse wraps room (sum natural) natural else natural
    let narrowed :=
      if room < sum narrowed then
        reduce (sum narrowed - room) (narrowed.map fun _ => 1) narrowed narrowed
      else narrowed
    ((indexed t.columns).zip narrowed).map fun c => t.columnWidth c.2 c.1.1 c.1.2

def cellLines (column : Column) (room : Nat) (cell : List Char) : List (List Char) :=
  let inner := room - padding
  if inner = 0 then []
  else
    let layout : Layout := {
      room := inner, overflow := .ellipsis, alignment := .left, isWrapped := !column.isUnwrapped }
    (wrap layout cell).map fun line => ' ' :: Text.fit inner line ++ [' ']

structure Rule where
  left : Char
  line : Char
  cross : Char
  right : Char

def top : Rule := ⟨'┏', '━', '┳', '┓'⟩
def underHeading : Rule := ⟨'┡', '━', '╇', '┩'⟩
def bottom : Rule := ⟨'└', '─', '┴', '┘'⟩

def Rule.draw (r : Rule) (widths : List Nat) : List Char :=
  r.left :: [r.cross].intercalate (widths.map fun w => List.replicate w r.line) ++ [r.right]

def drawRow (border : Char) (columns : List Column) (widths : List Nat)
    (row : List (List Char)) : List (List Char) :=
  let cells := ((columns.zip widths).zip row).map fun c => (c.1.2, cellLines c.1.1 c.1.2 c.2)
  let height := (cells.map fun c => c.2.length).foldl max 1
  (List.range height).map fun n =>
    border :: [border].intercalate (cells.map fun c => (c.2[n]?).getD (spaces c.1)) ++ [border]

def titleLines (t : Table) (room : Nat) : List (List Char) :=
  match t.title with
  | none => []
  | some title => wrap { room := room, alignment := .centre } title

def lines (t : Table) (limit : Nat) : List (List Char) :=
  let ws := t.widths limit
  let heading := t.columns.map fun c => c.heading.toList
  t.titleLines (sum ws + t.borders) ++
    top.draw ws :: drawRow '┃' t.columns ws heading ++
    underHeading.draw ws :: t.rows.flatMap (drawRow '│' t.columns ws) ++ [bottom.draw ws]

def text (t : Table) (limit : Nat) : String :=
  String.ofList ((t.lines limit).flatMap fun line => line ++ ['\n'])

end Table

end Formulary.Screen
