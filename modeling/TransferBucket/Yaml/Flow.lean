import TransferBucket.Yaml.Cursor

/-!
# Scalars inside lines

Scalars in single or double quotes, and plain scalars without quotes. All may go on in further
lines: a single break between two words is a space, of several breaks one is dropped.

Every loop takes a character in each of its rounds; its fuel is the number of characters ahead.
-/

namespace TransferBucket.Yaml

open Walk

/-! ## Quoted scalars -/

/-- The breaks of blank lines, up to the next word. No document ends inside quotes. -/
def blankLines : Nat → Walk (List Char)
  | 0 => pure []
  | fuel + 1 => do
    if ← .read Cursor.atSeparator then refuse
    skip isInlineBlank
    match ← takeBreak with
    | some b => do
      let more ← blankLines fuel
      pure (b :: more)
    | none => pure []

/-- The gap between two words in quotes. -/
def quotedGap (fuel : Nat) : Walk (List Char) := do
  let blanks ← takeWhile isInlineBlank
  require ((← peek 0) != endMark)
  match ← takeBreak with
  | some b => do
    let more ← blankLines fuel
    pure (fold b more)
  | none => pure blanks

/-- The character that a short escape stands for. -/
def shortEscape? : Char → Option Char
  | '0' => some '\x00'
  | 'a' => some '\x07'
  | 'b' => some '\x08'
  | 't' => some '\t'
  | '\t' => some '\t'
  | 'n' => some '\n'
  | 'v' => some '\x0b'
  | 'f' => some '\x0c'
  | 'r' => some '\r'
  | 'e' => some '\x1b'
  | ' ' => some ' '
  | '"' => some '"'
  | '\\' => some '\\'
  | '/' => some '/'
  | 'N' => some '\x85'
  | '_' => some '\xa0'
  | 'L' => some '\u2028'
  | 'P' => some '\u2029'
  | _ => none

/-- How many digits follow the letter of a long escape. -/
def escapeLength? : Char → Option Nat
  | 'x' => some 2
  | 'u' => some 4
  | 'U' => some 8
  | _ => none

/-- The number of digits to base sixteen. -/
def hexNumber? (ds : List Char) : Option Nat := (ds.mapM Literal.hexDigit?).map (ofDigits 16)

/-- The character with a number. Half of a pair is replaced, because it is no character. -/
def numberedChar (n : Nat) : Except Problem Char :=
  if 0x80000000 ≤ n then .error (.failure (.range .characterNumber))
  else if 0x110000 ≤ n then .error (.failure (.value .character))
  else if 0xd800 ≤ n ∧ n < 0xe000 then .ok '\ufffd'
  else .ok (Char.ofNat n)

/-- What stands behind a backslash. An escaped break is dropped with the blanks behind it. -/
def escape (fuel : Nat) : Walk (List Char) := do
  let c ← peek 0
  match shortEscape? c, escapeLength? c with
  | some x, _ => do
    pass 1
    pure [x]
  | none, some n => do
    pass 1
    let ds ← take n
    require (ds.length == n)
    match hexNumber? ds with
    | some code => do
      let x ← .ofExcept (numberedChar code)
      pure [x]
    | none => refuse
  | none, none => do
    match ← takeBreak with
    | some _ => blankLines fuel
    | none => refuse

/-- The rest of a scalar in quotes, with the closing one. -/
def quotedRest (quote : Char) : Nat → Walk (List Char)
  | 0 => refuse
  | fuel + 1 => do
    let c ← peek 0
    if quote = '\'' ∧ c = quote ∧ (← peek 1) = quote then
      pass 2
      let rest ← quotedRest quote fuel
      pure (quote :: rest)
    else if c = quote then
      pass 1
      pure []
    else if quote = '"' ∧ c = '\\' then
      pass 1
      let cs ← escape fuel
      let rest ← quotedRest quote fuel
      pure (cs ++ rest)
    else if isGap c then
      let cs ← quotedGap fuel
      let rest ← quotedRest quote fuel
      pure (cs ++ rest)
    else
      pass 1
      let rest ← quotedRest quote fuel
      pure (c :: rest)

/-- A scalar in quotes; the opening one lies ahead. -/
def quoted : Walk String := do
  let quote ← peek 0
  pass 1
  let fuel ← .read fun c => c.ahead.length + 1
  let cs ← quotedRest quote fuel
  pure (String.ofList cs)

/-! ## Plain scalars -/

/-- Whether a character structures collections in brackets. -/
def isFlowMark (c : Char) : Bool := [',', '[', ']', '{', '}'].contains c

/-- Whether a plain word ends before a character; `after` is the one behind it. -/
def endsPlain (inFlow : Bool) (c after : Char) : Bool :=
  isGap c || (c == ':' && (isGap after || (inFlow && isFlowMark after))) ||
    (inFlow && (isFlowMark c || c == '?'))

/-- The plain word at the start of a text. -/
def plainWord (inFlow : Bool) : List Char → List Char
  | [] => []
  | c :: rest =>
    if endsPlain inFlow c (rest.headD endMark) then [] else c :: plainWord inFlow rest

/-- The breaks of blank lines, up to the next word; none if the document ends there. -/
def plainBreaks : Nat → Walk (Option (List Char))
  | 0 => pure (some [])
  | fuel + 1 => do
    if ← .read Cursor.atSeparator then pure none
    else
      skip (· == ' ')
      match ← takeBreak with
      | some b => do
        let more ← plainBreaks fuel
        pure (more.map (b :: ·))
      | none => pure (some [])

/-- The gap behind a plain word, and whether it holds a break. -/
def plainGap (fuel : Nat) : Walk (List Char × Bool) := do
  let blanks ← takeWhile (· == ' ')
  match ← takeBreak with
  | some b => do
    let more ← plainBreaks fuel
    pure ((more.map (fold b)).getD [], true)
  | none => pure (blanks, false)

/-- The words of a plain scalar with the gaps between them, and whether a break follows the last.
In blocks its lines are indented by `least` columns. -/
def plainWords (inFlow : Bool) (least : Nat) : Nat → List Char → Bool → Walk (List Char × Bool)
  | 0, _, broken => pure ([], broken)
  | fuel + 1, gap, broken => do
    let word ← .read fun c => plainWord inFlow c.ahead
    if word.isEmpty then pure ([], broken)
    else
      pass word.length
      let (next, broken) ← plainGap fuel
      let out ← .read fun c => c.peek 0 == '#' || (!inFlow && decide (c.column < least))
      if next.isEmpty || out then pure (gap ++ word, broken)
      else
        let (rest, broken) ← plainWords inFlow least fuel next broken
        pure (gap ++ word ++ rest, broken)

/-- A plain scalar, and whether a break follows it. -/
def plain (inFlow : Bool) (least : Nat) : Walk (String × Bool) := do
  let fuel ← .read fun c => c.ahead.length + 1
  let (cs, broken) ← plainWords inFlow least fuel [] false
  pure (String.ofList cs, broken)

end TransferBucket.Yaml
