/-!
# Bytes as printable text

Three bytes are written as four characters of a sixty-four letter alphabet; `=` fills up the last
group. Reading is strict: no character outside the alphabet, no blank, nothing after the padding,
no padding at the very start. Two liberties remain: whole groups may be followed by any number of
`=`, and the bits that a short last group does not use may be anything.

Loose reading passes over all characters outside the alphabet, and ends where the padding of a short
group is complete.
-/

namespace TransferBucket.Base64

/-- The letters, in the order of their values. -/
def alphabet : List Char :=
  "ABCDEFGHIJKLMNOPQRSTUVWXYZabcdefghijklmnopqrstuvwxyz0123456789+/".toList

/-- The letter with a value below 64. -/
def letter (n : Nat) : Char := alphabet.getD n '='

/-- The value of a letter. -/
def value? (c : Char) : Option Nat :=
  let n := c.toNat
  if 'A'.toNat ≤ n ∧ n ≤ 'Z'.toNat then some (n - 'A'.toNat)
  else if 'a'.toNat ≤ n ∧ n ≤ 'z'.toNat then some (n - 'a'.toNat + 26)
  else if '0'.toNat ≤ n ∧ n ≤ '9'.toNat then some (n - '0'.toNat + 52)
  else if c = '+' then some 62
  else if c = '/' then some 63
  else none

/-- The text of bytes. -/
def encode : List UInt8 → List Char
  | [] => []
  | [a] => [letter (a.toNat / 4), letter (a.toNat % 4 * 16), '=', '=']
  | [a, b] =>
    [letter (a.toNat / 4), letter (a.toNat % 4 * 16 + b.toNat / 16), letter (b.toNat % 16 * 4), '=']
  | a :: b :: c :: rest =>
    letter (a.toNat / 4) :: letter (a.toNat % 4 * 16 + b.toNat / 16) ::
      letter (b.toNat % 16 * 4 + c.toNat / 64) :: letter (c.toNat % 64) :: encode rest

/-- The bytes of groups, after at least one whole group where the text starts with `=`. -/
def decodeGroups : List Char → Option (List UInt8)
  | [] => some []
  | a :: rest =>
    if a = '=' then
      if rest.all (· == '=') then some [] else none
    else match rest with
    | b :: c :: d :: rest =>
      match value? a, value? b with
      | some x, some y =>
        if c = '=' then
          if d = '=' ∧ rest = [] then some [UInt8.ofNat (x * 4 + y / 16)] else none
        else match value? c with
          | none => none
          | some z =>
            if d = '=' then
              if rest = [] then
                some [UInt8.ofNat (x * 4 + y / 16), UInt8.ofNat (y % 16 * 16 + z / 4)]
              else none
            else match value? d with
              | none => none
              | some w =>
                (decodeGroups rest).map fun bytes =>
                  UInt8.ofNat (x * 4 + y / 16) :: UInt8.ofNat (y % 16 * 16 + z / 4) ::
                    UInt8.ofNat (z % 4 * 64 + w) :: bytes
      | _, _ => none
    | _ => none

/-- The bytes of a text, `none` where it is not written strictly. -/
def decode? (s : List Char) : Option (List UInt8) :=
  if s.head? = some '=' then none else decodeGroups s

/-- The bytes of the letters of a group that has two or three of them. -/
def shortGroup : List Nat → List UInt8
  | [x, y] => [UInt8.ofNat (x * 4 + y / 16)]
  | [x, y, z] => [UInt8.ofNat (x * 4 + y / 16), UInt8.ofNat (y % 16 * 16 + z / 4)]
  | _ => []

/-- The bytes of the rest of a text that is read loosely, behind the letters of a group and some
padding of it. -/
def looseFrom (group : List Nat) (padding : Nat) : List Char → Option (List UInt8)
  | [] => if group.isEmpty then some [] else none
  | c :: rest =>
    if c = '=' then
      if group.length < 2 then looseFrom group padding rest
      else if 4 ≤ group.length + padding + 1 then some (shortGroup group)
      else looseFrom group (padding + 1) rest
    else match value? c with
      | none => looseFrom group padding rest
      | some w => match group with
        | [x, y, z] => (looseFrom [] 0 rest).map fun bytes =>
            UInt8.ofNat (x * 4 + y / 16) :: UInt8.ofNat (y % 16 * 16 + z / 4) ::
              UInt8.ofNat (z % 4 * 64 + w) :: bytes
        | _ => looseFrom (group ++ [w]) 0 rest

/-- The bytes of a text that is read loosely, `none` where its last group is not complete. -/
def decodeLoose? (s : List Char) : Option (List UInt8) := looseFrom [] 0 s

end TransferBucket.Base64
