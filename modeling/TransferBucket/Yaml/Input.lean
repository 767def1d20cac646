import TransferBucket.Text.Supply
import TransferBucket.Yaml.Cursor

/-!
# The text that is read as YAML

A text as far as it is there, and what goes wrong when more of it is asked for. A text is asked for
piece by piece. If a piece cannot be read, or holds a character that no YAML text holds, then the
text is there up to that piece; and that it goes on badly does not matter if it is refused before.
-/

namespace TransferBucket.Yaml

/-- A text that may end too early. -/
structure Input where
  text : List Char
  /-- What goes wrong when more is asked for; nothing if the text is there as a whole. -/
  beyond : Option Problem := none
  deriving DecidableEq

namespace Input

/-- The number of characters in a piece. The first piece is twice as long. -/
def pieceSize : Nat := 4096

/-- The next piece of a text. -/
def piece (s : Supply) : Except Problem (List Char × Supply) :=
  match s.take pieceSize with
  | .error m => .error (.failure (.value (.undecodable m)))
  | .ok (cs, s) => if cs.all isAllowed then .ok (cs, s) else .error .malformed

/-- The first piece of a text: both halves are asked for before either is looked at. -/
def firstPiece (s : Supply) : Except Problem (List Char × Supply) :=
  match s.take pieceSize with
  | .error m => .error (.failure (.value (.undecodable m)))
  | .ok ([], s) => .ok ([], s)
  | .ok (cs, s) =>
    match s.take pieceSize with
    | .error m => .error (.failure (.value (.undecodable m)))
    | .ok (more, s) => if (cs ++ more).all isAllowed then .ok (cs ++ more, s) else .error .malformed

/-- The pieces of a text up to an empty one. Every piece before takes a byte, so the fuel is the
number of bytes. -/
def pieces : Nat → Supply → Input
  | 0, _ => { text := [] }
  | fuel + 1, s =>
    match piece s with
    | .error p => { text := [], beyond := some p }
    | .ok ([], _) => { text := [] }
    | .ok (cs, s) =>
      let rest := pieces fuel s
      { rest with text := cs ++ rest.text }

/-- The text of bytes. -/
def ofBytes (bytes : List UInt8) : Input :=
  match firstPiece { bytes } with
  | .error p => { text := [], beyond := some p }
  | .ok (cs, s) =>
    let rest := pieces bytes.length s
    { rest with text := cs ++ rest.text }

/-- A text that is there as a whole, if it holds none but allowed characters. -/
def ofText (cs : List Char) : Input :=
  if cs.all isAllowed then { text := cs } else { text := [], beyond := some .malformed }

/-- What goes wrong when a reader has come to an offset. It looks at the next character, so it asks
for more at the last one. -/
def shortfall? (i : Input) : Nat → Option Problem :=
  match i.beyond with
  | none => fun _ => none
  | some p =>
    let size := i.text.length
    fun offset => if size ≤ offset + 1 then some p else none

end Input

end TransferBucket.Yaml
