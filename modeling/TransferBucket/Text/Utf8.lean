/-!
# Texts as bytes

The one-to-four-byte encoding of characters. Reading refuses what no text is written as: an
incomplete or overlong sequence, a surrogate, a number above the last code point; and it says
which bytes are at fault. The lines of a text file may end with a carriage return, a line feed or
both; a text read from it has line feeds only.
-/

namespace TransferBucket.Utf8

/-! ## Writing -/

/-- The byte with a number below 256. -/
def byte (n : Nat) : UInt8 := UInt8.ofNat n

/-- The bytes of one character. -/
def encodeChar (c : Char) : List UInt8 :=
  let n := c.toNat
  if n < 0x80 then [byte n]
  else if n < 0x800 then [byte (0xc0 + n / 0x40), byte (0x80 + n % 0x40)]
  else if n < 0x10000 then
    [byte (0xe0 + n / 0x1000), byte (0x80 + n / 0x40 % 0x40), byte (0x80 + n % 0x40)]
  else
    [byte (0xf0 + n / 0x40000), byte (0x80 + n / 0x1000 % 0x40), byte (0x80 + n / 0x40 % 0x40),
      byte (0x80 + n % 0x40)]

/-- The bytes of a text. -/
def encode (s : List Char) : List UInt8 := s.flatMap encodeChar

/-! ## Reading -/

/-- What is wrong with bytes that are no text. -/
inductive Fault where
  /-- A byte that starts no character. -/
  | start
  /-- A byte that does not continue the character begun. -/
  | continuation
  /-- The end in the middle of a character. -/
  | ending
  deriving DecidableEq, Repr

/-- The wording of a fault. -/
def Fault.message : Fault → String
  | .start => "invalid start byte"
  | .continuation => "invalid continuation byte"
  | .ending => "unexpected end of data"

/-- Bytes that are no text: the offset and number of the bytes at fault, and the first of them. -/
structure Malformed where
  fault : Fault
  offset : Nat
  length : Nat
  first : UInt8
  deriving DecidableEq, Repr

/-- Two digits to base sixteen. -/
def hexByte (b : UInt8) : String :=
  let digit (n : Nat) : Char := (Nat.toDigits 16 n).headD '0'
  String.ofList [digit (b.toNat / 16), digit (b.toNat % 16)]

/-- The wording of malformed bytes. -/
def Malformed.message (m : Malformed) : String :=
  (if m.length = 1 then
    s!"'utf-8' codec can't decode byte 0x{hexByte m.first} in position {m.offset}: "
  else
    s!"'utf-8' codec can't decode bytes in position {m.offset}-{m.offset + m.length - 1}: ") ++
    m.fault.message

/-- Whether a byte continues a character. -/
def isContinuation (b : UInt8) : Bool := 0x80 ≤ b.toNat && b.toNat < 0xc0

/-- The six bits that a continuation byte carries. -/
def low (b : UInt8) : Nat := b.toNat % 0x40

/-- Whether the second byte of three or four agrees with the first: neither overlong, nor a
surrogate, nor above the last code point. -/
def secondFits (first second : UInt8) : Bool :=
  isContinuation second &&
    !(first == 0xe0 && second.toNat < 0xa0) && !(first == 0xed && 0xa0 ≤ second.toNat) &&
    !(first == 0xf0 && second.toNat < 0x90) && !(first == 0xf4 && 0x90 ≤ second.toNat)

/-- The text of bytes, the first of which lies at `offset`. -/
def decodeFrom (offset : Nat) : List UInt8 → Except Malformed (List Char)
  | [] => .ok []
  | a :: rest =>
    if a.toNat < 0x80 then
      (decodeFrom (offset + 1) rest).map (Char.ofNat a.toNat :: ·)
    else if a.toNat < 0xc2 || 0xf5 ≤ a.toNat then .error ⟨.start, offset, 1, a⟩
    else match rest with
    | [] => .error ⟨.ending, offset, 1, a⟩
    | b :: rest =>
      if a.toNat < 0xe0 then
        if isContinuation b then
          (decodeFrom (offset + 2) rest).map
            (Char.ofNat ((a.toNat - 0xc0) * 0x40 + low b) :: ·)
        else .error ⟨.continuation, offset, 1, a⟩
      else if !secondFits a b then .error ⟨.continuation, offset, 1, a⟩
      else match rest with
      | [] => .error ⟨.ending, offset, 2, a⟩
      | c :: rest =>
        if !isContinuation c then .error ⟨.continuation, offset, 2, a⟩
        else if a.toNat < 0xf0 then
          (decodeFrom (offset + 3) rest).map
            (Char.ofNat ((a.toNat - 0xe0) * 0x1000 + low b * 0x40 + low c) :: ·)
        else match rest with
        | [] => .error ⟨.ending, offset, 3, a⟩
        | d :: rest =>
          if !isContinuation d then .error ⟨.continuation, offset, 3, a⟩
          else
            (decodeFrom (offset + 4) rest).map
              (Char.ofNat ((a.toNat - 0xf0) * 0x40000 + low b * 0x1000 + low c * 0x40 + low d) :: ·)

/-- The text of bytes. -/
def decode (bytes : List UInt8) : Except Malformed (List Char) := decodeFrom 0 bytes

end TransferBucket.Utf8

/-! ## Line ends -/

namespace TransferBucket

/-- The text with every line end written as one line feed. -/
def unifyLineEnds : List Char → List Char
  | [] => []
  | '\r' :: '\n' :: rest => '\n' :: unifyLineEnds rest
  | c :: rest => (if c = '\r' then '\n' else c) :: unifyLineEnds rest

end TransferBucket
