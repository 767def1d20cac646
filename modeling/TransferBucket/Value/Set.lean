import TransferBucket.Value

/-!
# Sets of values

A set of values is written in one order: its texts in ascending order, each once, then its whole
numbers in the same way, and after them what else it holds.
-/

namespace TransferBucket.Value

/-! ## Ascending order -/

section Ascending

variable {α : Type} [DecidableEq α] [LT α] [DecidableLT α]

/-- Put an item into a list in ascending order without repetition. -/
def insertAscending (a : α) : List α → List α
  | [] => [a]
  | b :: rest =>
    if a = b then b :: rest
    else if a < b then a :: b :: rest
    else b :: insertAscending a rest

/-- Some items in ascending order without repetition. -/
def ascending (as : List α) : List α := as.foldr insertAscending []

theorem mem_insertAscending {a b : α} {l : List α} : b ∈ insertAscending a l ↔ b = a ∨ b ∈ l := by
  induction l with
  | nil => simp [insertAscending]
  | cons c rest ih =>
    simp only [insertAscending]
    split
    · rename_i h
      simp [h]
    · split
      · simp
      · simp only [List.mem_cons, ih]
        exact or_left_comm

theorem mem_ascending {b : α} {as : List α} : b ∈ ascending as ↔ b ∈ as := by
  induction as with
  | nil => simp [ascending]
  | cons a rest ih =>
    have hs : ascending (a :: rest) = insertAscending a (ascending rest) := rfl
    rw [hs, mem_insertAscending, ih, List.mem_cons]

end Ascending

/-! ## Sets -/

/-- The whole number that a value is. -/
def int? : Value → Option Int
  | .int n => some n
  | _ => none

/-- Whether a value is neither a text nor a whole number. -/
def isOther (v : Value) : Bool := v.text?.isNone && v.int?.isNone

/-- Members of a set in the order in which they are written. -/
def setOrder (members : List Value) : List Value :=
  (ascending (members.filterMap text?)).map .text ++
    (ascending (members.filterMap int?)).map .int ++ members.filter isOther

/-- A set as a list. -/
def ofSet (members : List Value) : Value := .list (setOrder members)

end TransferBucket.Value
