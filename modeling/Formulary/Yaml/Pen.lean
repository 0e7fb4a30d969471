set_option autoImplicit false

namespace Formulary.Yaml

structure Pen where
  written : List Char := []
  column : Nat := 0
  -- No blank is needed in front of what comes next.
  isSpaced : Bool := true
  -- There is nothing but indentation on the line.
  isFresh : Bool := true

namespace Pen

def width : Nat := 80

def write (p : Pen) (cs : List Char) : Pen :=
  { p with written := cs.reverse ++ p.written, column := p.column + cs.length }

def newLine (p : Pen) : Pen :=
  { written := '\n' :: p.written, column := 0, isSpaced := true, isFresh := true }

def indentTo (p : Pen) (column : Nat) : Pen :=
  let isBehind := column < p.column || (p.column == column && !p.isSpaced)
  let p := if !p.isFresh || isBehind then p.newLine else p
  if p.column < column then
    { p.write (List.replicate (column - p.column) ' ') with isSpaced := true }
  else p

-- A mark of the notation. After one that stands in the indentation the line is still fresh.
def mark (p : Pen) (cs : List Char) (needsSpace isSpacing isIndent : Bool) : Pen :=
  let spaced := if p.isSpaced || !needsSpace then cs else ' ' :: cs
  { p.write spaced with isSpaced := isSpacing, isFresh := p.isFresh && isIndent }

def text (p : Pen) : String := String.ofList p.written.reverse

end Pen

end Formulary.Yaml
