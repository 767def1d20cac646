import TransferBucket.Yaml.Block
import TransferBucket.Yaml.Flow
import TransferBucket.Yaml.Input

/-!
# Tokens of a YAML text

The parts of a text with its layout made explicit: where a line is indented further than the block
around it a block begins, where one is indented less blocks end. That a scalar is a key is known
only at the colon behind it; the tokens in front of it are put in then. Only the start of a line,
or of an entry, may begin such a key, and the colon must follow on the same line, at most 1024
characters on.

A text that goes wrong ends in a `broken` token. A token that may stand behind the mark of a key that
is not yet known is not given out before that is known; so where the text goes wrong before, the
`broken` token takes its place.
-/

namespace TransferBucket.Yaml

/-- A part of a text. The end of the text has no token of its own. -/
inductive Token where
  /-- The directive that names a version. -/
  | version (major : Nat)
  /-- The directive that gives the tags with a handle their beginning. -/
  | tagStem (handle stem : String)
  /-- A directive without meaning. -/
  | directive
  | documentStart
  | documentEnd
  | blockSequence
  | blockMapping
  | blockEnd
  | flowSequence
  | flowSequenceEnd
  | flowMapping
  | flowMappingEnd
  /-- A dash in front of an entry. -/
  | entry
  | comma
  | key
  | value
  | alias (name : String)
  | anchor (name : String)
  | tag (handle : Option String) (suffix : String)
  | scalar (text : String) (plain : Bool)
  /-- Here the text goes wrong. -/
  | broken (p : Problem)
  deriving DecidableEq

/-! ## Tokens without layout -/

open Walk

/-- The handle of a tag: a mark, or a name between two marks. -/
def tagHandle : Walk String := do
  require ((← peek 0) == '!')
  if (← peek 1) = ' ' then
    pass 1
    pure "!"
  else
    let name ← .read fun c => (c.ahead.drop 1).takeWhile isNameChar
    require ((← peek (name.length + 1)) == '!')
    let cs ← take (name.length + 2)
    pure (String.ofList cs)

/-- Whether a character may stand in a tag. -/
def isTagChar (c : Char) : Bool := isNameChar c || ";/?:@&=+$,.!~*'()[]".toList.contains c

/-- Escaped bytes of a tag. -/
def tagBytes : Nat → Walk (List UInt8)
  | 0 => pure []
  | fuel + 1 => do
    if (← peek 0) = '%' then
      pass 1
      let ds ← take 2
      match ds.length, hexNumber? ds with
      | 2, some n => do
        let more ← tagBytes fuel
        pure (UInt8.ofNat n :: more)
      | _, _ => refuse
    else pure []

/-- The characters of a tag. -/
def tagChars : Nat → Walk (List Char)
  | 0 => pure []
  | fuel + 1 => do
    let c ← peek 0
    if c = '%' then
      match Utf8.decode (← tagBytes fuel) with
      | .ok cs => do
        let more ← tagChars fuel
        pure (cs ++ more)
      | .error _ => refuse
    else if isTagChar c then
      pass 1
      let more ← tagChars fuel
      pure (c :: more)
    else pure []

/-- The name of a tag behind its handle. -/
def tagSuffix : Walk String := do
  let fuel ← .read fun c => c.ahead.length + 1
  let cs ← tagChars fuel
  require !cs.isEmpty
  pure (String.ofList cs)

/-- A blank or the end of a line must follow. -/
def wordEnd : Walk Unit := do
  let c ← peek 0
  require (isLineEnd c || c == ' ')

/-- A tag; its mark lies ahead. -/
def tag : Walk Token := do
  let c ← peek 1
  let t ← if c = '<' then do
      pass 2
      let suffix ← tagSuffix
      require ((← peek 0) == '>')
      pass 1
      pure (Token.tag none suffix)
    else if isGap c then do
      pass 1
      pure (Token.tag none "!")
    else do
      let hasHandle ← .read fun c =>
        ((c.ahead.drop 1).takeWhile fun c => c != ' ' && !isLineEnd c).contains '!'
      let handle ← if hasHandle then tagHandle else do
        pass 1
        pure "!"
      let suffix ← tagSuffix
      pure (Token.tag (some handle) suffix)
  wordEnd
  pure t

/-- The number of a version. -/
def versionNumber : Walk Nat := do
  let ds ← takeWhile Char.isDigit
  require !ds.isEmpty
  if digitLimit < ds.length then .fail (.failure (.value (.tooLong ds.length)))
  pure (ofDigits 10 (ds.map fun c => c.toNat - 48))

/-- A directive; its mark lies ahead. -/
def directive : Walk Token := do
  pass 1
  let name ← takeWhile isNameChar
  require !name.isEmpty
  wordEnd
  let t ← if name = "YAML".toList then do
      skip (· == ' ')
      let major ← versionNumber
      require ((← peek 0) == '.')
      pass 1
      let _ ← versionNumber
      wordEnd
      pure (Token.version major)
    else if name = "TAG".toList then do
      skip (· == ' ')
      let handle ← tagHandle
      require ((← peek 0) == ' ')
      skip (· == ' ')
      let stem ← tagSuffix
      wordEnd
      pure (Token.tagStem handle stem)
    else do
      skip (!isLineEnd ·)
      pure Token.directive
  endLine
  pure t

/-- The characters other than gaps that may follow a name of an anchor. -/
def anchorEnds : List Char := ['?', ':', ',', ']', '}', '%', '@', '\x60']

/-- The name of an anchor or alias; its mark lies ahead. -/
def anchorName : Walk String := do
  pass 1
  let name ← takeWhile isNameChar
  require !name.isEmpty
  let c ← peek 0
  require (isGap c || anchorEnds.contains c)
  pure (String.ofList name)

/-- The characters with which no plain scalar starts, unless some of them stand before a word. -/
def indicators : List Char := ['-', '?', ':', ',', '[', ']', '{', '}', '#', '&', '*', '!', '|',
  '>', '\'', '"', '%', '@', '\x60']

/-- Whether a plain scalar may start with a character that stands before another. -/
def startsPlain (inFlow : Bool) (c after : Char) : Bool :=
  (!isGap c && !indicators.contains c) ||
    (!isGap after && (c == '-' || (!inFlow && (c == '?' || c == ':'))))

/-! ## Layout -/

/-- A place where a key without mark may have begun. -/
structure PossibleKey where
  /-- The number of tokens before it. -/
  index : Nat
  /-- Whether nothing but a key can stand there. -/
  required : Bool
  offset : Nat
  line : Nat
  column : Nat
  deriving DecidableEq, Repr

/-- The state between two tokens. -/
structure Layout where
  cursor : Cursor
  /-- How many brackets are open. -/
  depth : Nat := 0
  /-- The columns of the blocks that are open, the innermost first. -/
  blocks : List Nat := []
  /-- Whether a key without mark may begin here. -/
  keyAllowed : Bool := true
  /-- The possible keys by the number of open brackets. -/
  keys : List (Nat × PossibleKey) := []
  /-- The tokens so far, the latest first. -/
  tokens : List Token := []

/-- A step that makes tokens. -/
abbrev Scan (α : Type) := Action Layout Problem α

namespace Scan

/-- A step on the characters alone. -/
def walk {α : Type} (x : Walk α) : Scan α := .onPart Layout.cursor (fun l c => { l with cursor := c }) x

/-- Add a token. -/
def emit (t : Token) : Scan Unit := .modify fun l => { l with tokens := t :: l.tokens }

/-- Say whether a key without mark may begin next. -/
def allowKey (b : Bool) : Scan Unit := .modify fun l => { l with keyAllowed := b }

/-- The column of the innermost block, `-1` outside all blocks. -/
def indent (l : Layout) : Int :=
  match l.blocks with
  | [] => -1
  | c :: _ => c

/-- Give up the possible keys that satisfy a condition; a required one must not be given up. -/
def dropKeys (p : Nat → PossibleKey → Bool) : Scan Unit := do
  let l ← .get
  if l.keys.any fun k => p k.1 k.2 && k.2.required then .fail .malformed
  else .modify fun l => { l with keys := l.keys.filter fun k => !p k.1 k.2 }

/-- Whether a key that may have begun has become too long or reaches over a line's end. -/
def isStale (c : Cursor) (k : PossibleKey) : Bool := k.line != c.line || 1024 < c.offset - k.offset

/-- Give up the keys that cannot be any more. -/
def dropStale : Scan Unit := do
  let c ← .read Layout.cursor
  dropKeys fun _ k => isStale c k

/-- Give up the possible key between the innermost brackets. -/
def dropKey : Scan Unit := do
  let depth ← .read Layout.depth
  dropKeys fun d _ => d == depth

/-- Remember that a key may begin here. -/
def noteKey : Scan Unit := do
  let l ← .get
  if l.keyAllowed then
    dropKey
    let required := l.depth == 0 && decide (indent l = (l.cursor.column : Int))
    let k : PossibleKey := ⟨l.tokens.length, required, l.cursor.offset, l.cursor.line, l.cursor.column⟩
    .modify fun l => { l with keys := (l.depth, k) :: l.keys }

/-- Put a token in front of those from a number on. -/
def insertAt (index : Nat) (t : Token) : Scan Unit :=
  .modify fun l =>
    let n := l.tokens.length - index
    { l with tokens := l.tokens.take n ++ t :: l.tokens.drop n }

/-- End the blocks that are indented further than a column. Brackets have no layout. -/
def endBlocks (column : Int) : Scan Unit :=
  .modify fun l =>
    if l.depth != 0 then l
    else
      let ended := l.blocks.takeWhile fun (c : Nat) => decide (column < (c : Int))
      { l with
        blocks := l.blocks.drop ended.length
        tokens := List.replicate ended.length .blockEnd ++ l.tokens }

/-- Begin a block at a column, unless one has begun there; says whether it did. -/
def beginBlock (column : Nat) : Scan Bool := do
  let l ← .get
  if indent l < (column : Int) then
    .modify fun l => { l with blocks := column :: l.blocks }
    pure true
  else pure false

/-- Begin a block here for an entry or key with a mark, which must be allowed to stand here. -/
def beginMarked (t : Token) : Scan Unit := do
  let l ← .get
  if l.depth = 0 then
    if !l.keyAllowed then .fail .malformed
    if ← beginBlock l.cursor.column then emit t

/-- Pass over blanks, comments and line ends. Behind a line's end a key may begin, except between
brackets. -/
def skipGap : Nat → Scan Unit
  | 0 => pure ()
  | fuel + 1 => do
    walk (skip (· == ' '))
    if (← walk (peek 0)) = '#' then walk (skip (!isLineEnd ·))
    match ← walk takeBreak with
    | some _ => do
      if (← .read Layout.depth) = 0 then allowKey true
      skipGap fuel
    | none => pure ()

/-- A mark between documents or a directive: all blocks end. -/
def outside (x : Walk Token) : Scan Unit := do
  endBlocks (-1)
  dropKey
  allowKey false
  emit (← walk x)

/-- An opening bracket. -/
def openBracket (t : Token) : Scan Unit := do
  noteKey
  .modify fun l => { l with depth := l.depth + 1 }
  allowKey true
  emit t
  walk (pass 1)

/-- A closing bracket. -/
def closeBracket (t : Token) : Scan Unit := do
  dropKey
  .modify fun l => { l with depth := l.depth - 1 }
  allowKey false
  emit t
  walk (pass 1)

/-- A part that may be a key, or stand in front of one. -/
def keyPart (x : Walk Token) : Scan Unit := do
  noteKey
  allowKey false
  emit (← walk x)

/-- A comma. -/
def comma : Scan Unit := do
  allowKey true
  dropKey
  walk (pass 1)
  emit .comma

/-- A dash in front of an entry. -/
def entry : Scan Unit := do
  beginMarked .blockSequence
  allowKey true
  dropKey
  walk (pass 1)
  emit .entry

/-- The mark of a key. -/
def markedKey : Scan Unit := do
  beginMarked .blockMapping
  allowKey ((← .read Layout.depth) == 0)
  dropKey
  walk (pass 1)
  emit .key

/-- The colon in front of a value. If a key may have begun before, it did. -/
def value : Scan Unit := do
  let l ← .get
  match l.keys.find? fun k => k.1 = l.depth with
  | some (_, k) => do
    .modify fun l => { l with keys := l.keys.filter fun k => k.1 != l.depth }
    insertAt k.index .key
    if l.depth = 0 then
      if ← beginBlock k.column then insertAt k.index .blockMapping
    allowKey false
  | none => do
    beginMarked .blockMapping
    allowKey (l.depth == 0)
    dropKey
  walk (pass 1)
  emit .value

/-- A block scalar. -/
def blockScalar (folded : Bool) : Scan Unit := do
  allowKey true
  dropKey
  let column ← .read indent
  let text ← walk (block folded column)
  emit (.scalar text false)

/-- A plain scalar. Behind a line's end a key may begin. -/
def plainScalar : Scan Unit := do
  noteKey
  let l ← .get
  let (text, broken) ← walk (plain (l.depth != 0) (indent l + 1).toNat)
  allowKey broken
  emit (.scalar text true)

/-- The next token with those that the layout brings; false at the end. -/
def next : Scan Bool := do
  if (← .read fun l => l.cursor.offset == 0 && l.cursor.peek 0 == '\ufeff') then walk (pass 1)
  let fuel ← .read fun l => l.cursor.ahead.length + 1
  skipGap fuel
  dropStale
  let column ← .read fun l => l.cursor.column
  endBlocks column
  let l ← .get
  let c := l.cursor.peek 0
  let after := l.cursor.peek 1
  let inFlow := l.depth != 0
  if c = endMark then
    endBlocks (-1)
    dropKey
    pure false
  else
    if column = 0 ∧ c = '%' then outside directive
    else if column = 0 ∧ l.cursor.atSeparator then
      outside do
        pass 3
        pure (if c = '-' then Token.documentStart else Token.documentEnd)
    else if c = '[' then openBracket .flowSequence
    else if c = '{' then openBracket .flowMapping
    else if c = ']' then closeBracket .flowSequenceEnd
    else if c = '}' then closeBracket .flowMappingEnd
    else if c = ',' then comma
    else if c = '-' ∧ isGap after then entry
    else if c = '?' ∧ (inFlow ∨ isGap after) then markedKey
    else if c = ':' ∧ (inFlow ∨ isGap after) then value
    else if c = '*' then keyPart (Token.alias <$> anchorName)
    else if c = '&' then keyPart (Token.anchor <$> anchorName)
    else if c = '!' then keyPart tag
    else if c = '|' ∧ !inFlow then blockScalar false
    else if c = '>' ∧ !inFlow then blockScalar true
    else if c = '\'' ∨ c = '"' then keyPart do
      let text ← quoted
      pure (Token.scalar text false)
    else if startsPlain inFlow c after then plainScalar
    else .fail .malformed
    pure true

/-- The tokens that have been given out: those in front of all places where a key may have begun. A
required key counts as such a place even where it has become too long. -/
def givenOut (l : Layout) : List Token :=
  let open? (k : PossibleKey) : Bool := k.required || !isStale l.cursor k
  let tokens := l.tokens.reverse
  tokens.take ((l.keys.filter fun k => open? k.2).foldl (fun n k => min n k.2.index) tokens.length)

/-- The tokens from a place on. Where the text falls short, that comes before all else. -/
def all (shortfall? : Nat → Option Problem) : Nat → Layout → List Token
  | 0, l => l.tokens.reverse
  | fuel + 1, l =>
    let (r, after) := next l
    match shortfall? after.cursor.offset, r with
    | some p, _ => givenOut l ++ [.broken p]
    | none, .error p => givenOut l ++ [.broken p]
    | none, .ok true => all shortfall? fuel after
    | none, .ok false => after.tokens.reverse

end Scan

/-- The tokens of a text. Every token takes a character at least. -/
def Token.ofInput (i : Input) : List Token :=
  Scan.all i.shortfall? (i.text.length + 1) { cursor := { ahead := i.text } }

end TransferBucket.Yaml
