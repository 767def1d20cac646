/-!
# Tables of ranges

Looking up a number in a table of ranges. The ranges are in ascending order and do not overlap, so
the search halves the table in every step. What it finds is a range of the table that the number
falls into, whatever the table is.
-/

namespace TransferBucket

/-- The range that a number falls into, among the `width` ones from `low` on. -/
def rangeIn? {α : Type} (table : Array α) (first last : α → Nat) (n : Nat) :
    Nat → Nat → Nat → Option α
  | 0, _, _ => none
  | fuel + 1, low, width =>
    if width = 0 then none
    else match table[low + width / 2]? with
      | none => none
      | some r =>
        if n < first r then rangeIn? table first last n fuel low (width / 2)
        else if last r < n then
          rangeIn? table first last n fuel (low + width / 2 + 1) (width - width / 2 - 1)
        else some r

/-- The range of a table that a number falls into. -/
def rangeOf? {α : Type} (table : Array α) (first last : α → Nat) (n : Nat) : Option α :=
  rangeIn? table first last n (table.size + 1) 0 table.size

end TransferBucket
