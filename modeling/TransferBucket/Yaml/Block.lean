import TransferBucket.Yaml.Cursor

/-!
# Scalars of whole lines

Block scalars: the lines below a header, as far as they are indented. A literal scalar keeps its
breaks; a folded one joins neighbouring lines with a space, except lines that start with a blank.
The header says what becomes of the breaks at the end, and may give the indentation.
-/

namespace TransferBucket.Yaml

open Walk

/-- What becomes of the breaks at the end of a block scalar. -/
inductive Chomping where
  /-- None is kept. -/
  | strip
  /-- The first is kept. -/
  | clip
  /-- All are kept. -/
  | keep
  deriving DecidableEq, Repr

/-- What a header says: the treatment of the last breaks, and an indentation. -/
structure Header where
  chomping : Chomping
  increment : Option Nat
  deriving DecidableEq, Repr

/-- The mark of a treatment, if it is there. -/
def chomping? : Walk (Option Chomping) := do
  let c ← peek 0
  if c = '+' then
    pass 1
    pure (some .keep)
  else if c = '-' then
    pass 1
    pure (some .strip)
  else pure none

/-- The digit of an indentation, if it is there. -/
def increment? : Walk (Option Nat) := do
  let c ← peek 0
  if c = '0' then refuse
  else if c.isDigit then
    pass 1
    pure (some (c.toNat - '0'.toNat))
  else pure none

/-- The header of a block scalar; its marks stand in either order. -/
def header : Walk Header := do
  let first ← chomping?
  let increment ← increment?
  let second ← if first.isNone && increment.isSome then chomping? else pure none
  let c ← peek 0
  require (isLineEnd c || c == ' ')
  endLine
  pure ⟨(first.orElse fun _ => second).getD .clip, increment⟩

/-- The blank lines at the start, and the widest of their indentations. -/
def leadingBreaks : Nat → Nat → Walk (List Char × Nat)
  | 0, widest => pure ([], widest)
  | fuel + 1, widest => do
    skip (· == ' ')
    let column ← .read Cursor.column
    let widest := max widest column
    match ← takeBreak with
    | some b => do
      let (more, widest) ← leadingBreaks fuel widest
      pure (b :: more, widest)
    | none => pure ([], widest)

/-- Pass over the indentation of a line. -/
def indentTo (column : Nat) : Walk Unit := do
  let n ← .read fun c => ((c.ahead.take (column - c.column)).takeWhile (· == ' ')).length
  pass n

/-- The breaks of blank lines between lines indented to a column. -/
def breaksAt (column : Nat) : Nat → Walk (List Char)
  | 0 => pure []
  | fuel + 1 => do
    indentTo column
    match ← takeBreak with
    | some b => do
      let more ← breaksAt column fuel
      pure (b :: more)
    | none => pure []

/-- The lines of a block scalar at a column; `before` are the breaks of the blank lines above. -/
def blockLines (folded : Bool) (chomping : Chomping) (column : Nat) :
    Nat → List Char → Walk (List Char)
  | 0, before => pure before
  | fuel + 1, before => do
    let blankStart := isInlineBlank (← peek 0)
    let line ← takeWhile (!isLineEnd ·)
    let ending ← takeBreak
    let after ← breaksAt column fuel
    let more ← .read fun c => c.column == column && c.peek 0 != endMark
    if more then
      let join := if folded && ending == some '\n' && !blankStart &&
          !isInlineBlank (← peek 0) then
        (if after.isEmpty then [' '] else []) else ending.toList
      let rest ← blockLines folded chomping column fuel after
      pure (before ++ line ++ join ++ rest)
    else
      pure (before ++ line ++ match chomping with
        | .strip => []
        | .clip => ending.toList
        | .keep => ending.toList ++ after)

/-- A block scalar inside a block indented to `indent`; its mark lies ahead. -/
def block (folded : Bool) (indent : Int) : Walk String := do
  pass 1
  let h ← header
  let least := max 1 (indent + 1).toNat
  let fuel ← .read fun c => c.ahead.length + 1
  let (before, column) ← match h.increment with
    | none => do
      let (before, widest) ← leadingBreaks fuel 0
      pure (before, max least widest)
    | some n => do
      let column := least + n - 1
      let before ← breaksAt column fuel
      pure (before, column)
  let starts ← .read fun c => c.column == column && c.peek 0 != endMark
  let cs ← if starts then blockLines folded h.chomping column fuel before
    else pure (if h.chomping = .keep then before else [])
  pure (String.ofList cs)

end TransferBucket.Yaml
