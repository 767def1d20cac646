import TransferBucket.Action
import TransferBucket.Failure

/-!
# Walking through a YAML text

A place in a text, and the steps that take characters there. Layout carries meaning in YAML, so a
place knows its line and its column. Behind the last character stands a mark that no text holds.

The line ends of a text have been unified before; besides the line feed there are three rarer
breaks, which are kept apart because folding treats them differently.
-/

namespace TransferBucket.Yaml

/-- Why a text cannot be read. -/
inductive Problem where
  /-- It is no YAML text, or asks for a kind of value that is not read. -/
  | malformed
  /-- A scalar has the form of its kind but names no value of it. -/
  | failure (f : Failure)
  deriving DecidableEq

/-! ## Characters -/

/-- The mark behind the last character. -/
def endMark : Char := '\x00'

/-- Whether a character ends a line. -/
def isBreak (c : Char) : Bool := c == '\n' || c == '\x85' || c == '\u2028' || c == '\u2029'

/-- Whether a line ends before a character. -/
def isLineEnd (c : Char) : Bool := c == endMark || isBreak c

/-- Whether a character is a blank inside a line. -/
def isInlineBlank (c : Char) : Bool := c == ' ' || c == '\t'

/-- Whether a word ends before a character. -/
def isGap (c : Char) : Bool := isLineEnd c || isInlineBlank c

/-- Whether a character belongs to names. -/
def isNameChar (c : Char) : Bool := c.isAlphanum || c == '-' || c == '_'

/-- Whether a text may hold a character. -/
def isAllowed (c : Char) : Bool :=
  let n := c.toNat
  n == 0x09 || n == 0x0a || n == 0x0d || (0x20 ≤ n && n ≤ 0x7e) || n == 0x85 ||
    (0xa0 ≤ n && n ≤ 0xfffd) || 0x10000 ≤ n

/-! ## Places -/

/-- A place in a text: the characters ahead, and the way from the start. -/
structure Cursor where
  ahead : List Char
  offset : Nat := 0
  line : Nat := 0
  column : Nat := 0
  deriving DecidableEq, Repr

namespace Cursor

/-- The character `n` places ahead. -/
def peek (c : Cursor) (n : Nat) : Char := c.ahead.getD n endMark

/-- One character on. A byte order mark takes no column. -/
def next (c : Cursor) : Cursor :=
  match c.ahead with
  | [] => c
  | x :: rest =>
    if isBreak x then ⟨rest, c.offset + 1, c.line + 1, 0⟩
    else ⟨rest, c.offset + 1, c.line, if x = '\ufeff' then c.column else c.column + 1⟩

/-- Some characters on. -/
def advance : Nat → Cursor → Cursor
  | 0, c => c
  | n + 1, c => advance n c.next

/-- Whether a mark between documents starts here. -/
def atSeparator (c : Cursor) : Bool :=
  (['-', '-', '-'].isPrefixOf c.ahead || ['.', '.', '.'].isPrefixOf c.ahead) && isGap (c.peek 3)

end Cursor

/-! ## Steps -/

/-- A step that takes characters. -/
abbrev Walk (α : Type) := Action Cursor Problem α

namespace Walk

/-- The character `n` places ahead. -/
def peek (n : Nat) : Walk Char := .read fun c => c.peek n

/-- Refuse the text. -/
def refuse {α : Type} : Walk α := .fail .malformed

/-- Refuse the text unless a condition holds. -/
def require (b : Bool) : Walk Unit := if b then pure () else refuse

/-- Pass over some characters. -/
def pass (n : Nat) : Walk Unit := .modify (Cursor.advance n)

/-- Take the next characters. -/
def take (n : Nat) : Walk (List Char) := do
  let cs ← .read fun c => c.ahead.take n
  pass n
  pure cs

/-- Take the next characters as long as they satisfy a condition. -/
def takeWhile (p : Char → Bool) : Walk (List Char) := do
  let cs ← .read fun c => c.ahead.takeWhile p
  pass cs.length
  pure cs

/-- Pass over characters as long as they satisfy a condition. -/
def skip (p : Char → Bool) : Walk Unit := do
  let _ ← takeWhile p

/-- Take the break that ends a line: the rare ones stand for themselves. -/
def takeBreak : Walk (Option Char) := do
  let c ← peek 0
  if isBreak c then
    pass 1
    pure (some (if c = '\x85' then '\n' else c))
  else pure none

/-- Pass over the rest of a line, which may hold a comment only. -/
def endLine : Walk Unit := do
  skip (· == ' ')
  if (← peek 0) = '#' then skip (!isLineEnd ·)
  require (isLineEnd (← peek 0))
  let _ ← takeBreak

/-- What a folded break stands for: a space, unless more breaks follow it. -/
def fold (first : Char) (more : List Char) : List Char :=
  if first ≠ '\n' then first :: more else if more.isEmpty then [' '] else more

end Walk

end TransferBucket.Yaml
