import TransferBucket.Text.Utf8

/-!
# Text in pieces

A text that is read from bytes only as far as it is asked for. **Chunks.** Bytes are taken in
chunks, so what is wrong with a byte comes up only when its chunk is taken, and is placed within the
chunk. **What a chunk cuts off.** The start of a character at the end of a chunk belongs to the next
one; and so does a carriage return, which may be the first half of a line end.
-/

namespace TransferBucket

namespace Utf8

/-- Whether bytes are the first two of the three that a surrogate would have. -/
def isHalfSurrogate : List UInt8 → Bool
  | [a, b] => a == 0xed && 0xa0 ≤ b.toNat && isContinuation b
  | _ => false

/-- The text of bytes, and those bytes at their end that are the start of a character only. A
surrogate is not refused before it is complete. -/
def decodeStart (bytes : List UInt8) : Except Malformed (List Char × List UInt8) :=
  match decode bytes with
  | .ok cs => .ok (cs, [])
  | .error m =>
    let last := bytes.drop m.offset
    if m.fault = .ending || isHalfSurrogate last then
      (decode (bytes.take m.offset)).map fun cs => (cs, last)
    else .error m

end Utf8

/-- A text of which a part has been given out. -/
structure Supply where
  /-- The bytes that have not been taken. -/
  bytes : List UInt8
  /-- The start of a character that the last chunk cut off. -/
  cut : List UInt8 := []
  /-- Whether the last chunk ended with a carriage return. -/
  endsInReturn : Bool := false
  /-- The characters that have been read and not given out. -/
  ready : List Char := []
  /-- The number of bytes of the last chunk. -/
  lastBytes : Nat := 0
  /-- The number of characters of the last chunk. -/
  lastChars : Nat := 0
  deriving DecidableEq, Repr

namespace Supply

/-- The least size of a chunk, except for the last. -/
def chunkSize : Nat := 8192

/-- Take a chunk, which is empty at the end. It is larger if the characters that are wanted would
need more bytes, were they as long as those of the chunk before. -/
def takeChunk (wanted : Nat) (s : Supply) : Except Utf8.Malformed Supply :=
  let size := max chunkSize (wanted * s.lastBytes / s.lastChars)
  let chunk := s.bytes.take size
  let isEnd := chunk.isEmpty
  let decoded :=
    if isEnd then (Utf8.decode s.cut).map fun cs => (cs, []) else Utf8.decodeStart (s.cut ++ chunk)
  decoded.map fun (cs, cut) =>
    let cs := if s.endsInReturn then '\r' :: cs else cs
    let endsInReturn := !isEnd && cs.getLast? == some '\r'
    let ready := unifyLineEnds (if endsInReturn then cs.dropLast else cs)
    { bytes := s.bytes.drop size, cut, endsInReturn, ready
      lastBytes := chunk.length, lastChars := ready.length }

/-- Give out a number of characters, or as many as there are. Every chunk takes a byte, but for the
one that brings a carriage return at the end and the one that brings nothing; so the fuel is the
number of bytes and two. -/
def takeChars : Nat → Nat → Supply → Except Utf8.Malformed (List Char × Supply)
  | 0, _, s => .ok ([], s)
  | fuel + 1, n, s =>
    let given := s.ready.take n
    let rest := { s with ready := s.ready.drop n }
    if given.length = n then .ok (given, rest)
    else
      match rest.takeChunk (n - given.length) with
      | .error m => .error m
      | .ok next =>
        if rest.bytes.isEmpty && next.ready.isEmpty then .ok (given, next)
        else (takeChars fuel (n - given.length) next).map fun r => (given ++ r.1, r.2)

/-- The next piece of the text: a number of characters, or as many as there are. -/
def take (n : Nat) (s : Supply) : Except Utf8.Malformed (List Char × Supply) :=
  takeChars (s.bytes.length + 2) n s

end Supply

end TransferBucket
