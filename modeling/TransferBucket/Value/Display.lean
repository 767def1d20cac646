import TransferBucket.Value
import TransferBucket.Number.Literal
import TransferBucket.Number.Shortest
import TransferBucket.Text.Printable

/-!
# Values inside messages

The text of a value where a message shows it. A text stands for itself at the top and is quoted
inside other values; truth values and null have the spellings of the program's messages.
A value with a whole number of too many digits has a text here too, but no message shows it.
-/

namespace TransferBucket

/-- The digits of a number to base sixteen, filled up with zeros. -/
def hexPadded (width n : Nat) : List Char := padLeft width (Nat.toDigits 16 n)

namespace Value

/-- One character of a quoted text. -/
def quotedChar (quote c : Char) : List Char :=
  if c = quote ∨ c = '\\' then ['\\', c]
  else if c = '\n' then ['\\', 'n']
  else if c = '\r' then ['\\', 'r']
  else if c = '\t' then ['\\', 't']
  else if isPrintable c then [c]
  else if c.toNat < 0x100 then '\\' :: 'x' :: hexPadded 2 c.toNat
  else if c.toNat < 0x10000 then '\\' :: 'u' :: hexPadded 4 c.toNat
  else '\\' :: 'U' :: hexPadded 8 c.toNat

/-- A text in quotes: single ones, unless it has such quotes and no double ones. -/
def quoted (s : String) : String :=
  let cs := s.toList
  let quote := if cs.contains '\'' && !cs.contains '"' then '"' else '\''
  String.ofList (quote :: (cs.flatMap (quotedChar quote) ++ [quote]))

/-- One byte of quoted bytes. -/
def quotedByte (quote : Char) (b : UInt8) : List Char :=
  let c := Char.ofNat b.toNat
  if c = quote ∨ c = '\\' then ['\\', c]
  else if c = '\n' then ['\\', 'n']
  else if c = '\r' then ['\\', 'r']
  else if c = '\t' then ['\\', 't']
  else if 0x20 ≤ b.toNat ∧ b.toNat < 0x7f then [c]
  else '\\' :: 'x' :: hexPadded 2 b.toNat

/-- Bytes in quotes, chosen as for texts, behind a mark. -/
def quotedBytes (bs : List UInt8) : String :=
  let quote := if bs.contains 0x27 && !bs.contains 0x22 then '"' else '\''
  String.ofList ('b' :: quote :: (bs.flatMap (quotedByte quote) ++ [quote]))

/-- The call that makes a date. -/
def dateCall (d : Date) : String := s!"{d.year}, {d.month}, {d.day}"

/-- The parts of a moment's call after the day; a zero second or fraction is left out. -/
def clockCall (t : Timestamp) : String :=
  s!", {t.hour}, {t.minute}" ++
    (if t.second = 0 ∧ t.microsecond = 0 then "" else s!", {t.second}") ++
    (if t.microsecond = 0 then "" else s!", {t.microsecond}")

/-- The call that makes a distance of `o` minutes: whole days and the seconds that remain. -/
def distanceCall (o : Int) : String :=
  let days := o.fdiv 1440
  let seconds := (o - days * 1440) * 60
  let parts := (if days = 0 then [] else [s!"days={days}"]) ++
    (if seconds = 0 then [] else [s!"seconds={seconds}"])
  "datetime.timedelta(" ++ ", ".intercalate parts ++ ")"

/-- The call that makes the zone at a distance of `o` minutes from universal time. -/
def zoneCall (o : Int) : String :=
  if o = 0 then "datetime.timezone.utc" else "datetime.timezone(" ++ distanceCall o ++ ")"

end Value

/-- The wording of a problem with a time of day. -/
def Timestamp.Problem.message : Timestamp.Problem → String
  | .date p => p.message
  | .hour => "hour must be in 0..23"
  | .minute => "minute must be in 0..59"
  | .second => "second must be in 0..59"
  | .offset o =>
    "offset must be a timedelta strictly between -timedelta(hours=24) and " ++
      s!"timedelta(hours=24), not {Value.distanceCall o}."

namespace Value

mutual

/-- A value inside another value. -/
def inner : Value → String
  | .null => "None"
  | .bool b => if b then "True" else "False"
  | .int n => toString n
  | .float x => x.display
  | .text s => quoted s
  | .bytes bs => quotedBytes bs
  | .date d => "datetime.date(" ++ dateCall d ++ ")"
  | .timestamp t => "datetime.datetime(" ++ dateCall t.date ++ clockCall t ++
      (match t.offset with
        | none => ""
        | some o => ", tzinfo=" ++ zoneCall o) ++ ")"
  | .list items => "[" ++ innerItems items ++ "]"
  | .pair a b => "(" ++ inner a ++ ", " ++ inner b ++ ")"
  | .set [] => "set()"
  | .set (v :: vs) => "\x7b" ++ innerItems (v :: vs) ++ "\x7d"
  | .mapping entries => "\x7b" ++ innerEntries entries ++ "\x7d"
  | .again .list => "[...]"
  | .again .mapping => "\x7b...\x7d"

/-- Items, parted by commas. -/
def innerItems : List Value → String
  | [] => ""
  | [v] => inner v
  | v :: w :: rest => inner v ++ ", " ++ innerItems (w :: rest)

/-- Entries, parted by commas. -/
def innerEntries : List (Value × Value) → String
  | [] => ""
  | [(k, v)] => inner k ++ ": " ++ inner v
  | (k, v) :: e :: rest => inner k ++ ": " ++ inner v ++ ", " ++ innerEntries (e :: rest)

end

mutual

/-- Whether a message can show a value: no whole number in it has too many digits. -/
def isSpellable : Value → Bool
  | .int n => isWritable n
  | .list items => areSpellable items
  | .pair a b => isSpellable a && isSpellable b
  | .set members => areSpellable members
  | .mapping entries => areEntriesSpellable entries
  | _ => true

/-- `isSpellable` for all values of a list. -/
def areSpellable : List Value → Bool
  | [] => true
  | v :: vs => isSpellable v && areSpellable vs

/-- `isSpellable` for keys and values. -/
def areEntriesSpellable : List (Value × Value) → Bool
  | [] => true
  | (k, v) :: es => isSpellable k && isSpellable v && areEntriesSpellable es

end

/-- The text of a value in a message. -/
def display : Value → String
  | .text s => s
  | .date d => d.text
  | .timestamp t => t.text " "
  | v => v.inner

@[simp]
theorem display_text (s : String) : (Value.text s).display = s := rfl

end Value

end TransferBucket
