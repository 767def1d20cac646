import TransferBucket.CommandLine.Grammar
import TransferBucket.Text.Digit
import TransferBucket.Value.Display

/-!
# Reading arguments

The arguments of a command line, read by a grammar. An argument that starts with a dash is a flag,
unless it is a negative number or holds a blank. A long name may be shortened as long as only one
name begins so; a text may stand behind an equals sign; flags with one letter may share a dash.
Behind two dashes nothing is a flag.

Arguments that the grammar has no place for are set aside. The caller refuses them, but only after
everything else has been read.
-/

namespace TransferBucket.CommandLine

/-- Why a command line does not lead to a request. -/
inductive Refusal where
  /-- It asks how the program is used, or has to be told so because it names no command. -/
  | usage (g : Grammar) (asked : Bool)
  /-- It is wrong. -/
  | misuse (g : Grammar) (message : String)
  deriving DecidableEq, Repr

/-- The use of a flag: the name it was recognised by, and a text in the same argument. -/
structure FlagUse where
  flag : Flag
  name : String
  attached : Option String
  deriving DecidableEq, Repr

/-- An argument as a grammar sees it. -/
inductive Argument where
  /-- The two dashes behind which nothing is a flag. -/
  | dashes
  | plain (text : String)
  | flag (text : String) (use : FlagUse)
  /-- A flag that the grammar does not know. -/
  | strangeFlag (text : String)
  deriving DecidableEq, Repr

namespace Argument

/-- The argument as it was given. -/
def text : Argument → String
  | .dashes => "--"
  | .plain s => s
  | .flag s _ => s
  | .strangeFlag s => s

/-- Whether an argument is a flag. -/
def isFlag : Argument → Bool
  | .flag .. => true
  | .strangeFlag _ => true
  | _ => false

/-! ## Recognising flags -/

/-- A text before and after its first equals sign. -/
def splitAtEquals (cs : List Char) : List Char × Option (List Char) :=
  match cs.dropWhile (· != '=') with
  | [] => (cs, none)
  | _ :: after => (cs.takeWhile (· != '='), some after)

/-- Whether a text is a negative number in digits, perhaps with a point. -/
def isNegativeNumber (cs : List Char) : Bool :=
  let isDigit (c : Char) : Bool := (decimalDigit? c).isSome
  let cs := if cs.getLast? = some '\n' then cs.dropLast else cs
  match cs with
  | '-' :: number =>
    let whole := number.takeWhile isDigit
    match number.drop whole.length with
    | [] => !whole.isEmpty
    | '.' :: fraction => !fraction.isEmpty && fraction.all isDigit
    | _ => false
  | _ => false

/-- The flags that a text with a dash in front may stand for. -/
def candidates (g : Grammar) (cs : List Char) : List FlagUse :=
  let isStart (part : List Char) (name : String) : Bool := part.isPrefixOf name.toList
  match cs with
  | '-' :: '-' :: _ =>
    let (start, attached) := splitAtEquals cs
    g.names.filterMap fun (name, f) =>
      if isStart start name then some ⟨f, name, attached.map String.ofList⟩ else none
  | _ =>
    let short := String.ofList (cs.take 2)
    g.names.filterMap fun (name, f) =>
      if name = short then some ⟨f, name, some (String.ofList (cs.drop 2))⟩
      else if isStart cs name then some ⟨f, name, none⟩
      else none

/-- The argument that a text is, in front of two dashes. -/
def ofText (g : Grammar) (s : String) : Except Refusal Argument :=
  let cs := s.toList
  if cs.head? ≠ some '-' then .ok (.plain s)
  else match g.flag? s with
  | some f => .ok (.flag s ⟨f, s, none⟩)
  | none =>
    if cs.length = 1 then .ok (.plain s)
    else
      let (start, attached) := splitAtEquals cs
      match attached, g.flag? (String.ofList start) with
      | some after, some f => .ok (.flag s ⟨f, String.ofList start, some (String.ofList after)⟩)
      | _, _ =>
        match candidates g cs with
        | [use] => .ok (.flag s use)
        | [] => .ok (if isNegativeNumber cs || cs.contains ' ' then .plain s else .strangeFlag s)
        | many =>
          let matching := ", ".intercalate (many.map FlagUse.name)
          .error (.misuse g s!"ambiguous option: {s} could match {matching}")

/-- The arguments that texts are. -/
def ofTexts (g : Grammar) : List String → Except Refusal (List Argument)
  | [] => .ok []
  | s :: rest =>
    if s = "--" then .ok (.dashes :: rest.map .plain)
    else match ofText g s with
      | .error e => .error e
      | .ok a => (ofTexts g rest).map (a :: ·)

end Argument

/-! ## Using them up -/

/-- What has been read so far. -/
structure Findings where
  /-- How often the counting flag was given. -/
  count : Nat := 0
  /-- The texts of flags by the labels of the flags, the latest first. A flag to which two dashes
  are attached has no text. -/
  texts : List (String × Option String) := []
  /-- The labels of the flags given. -/
  seen : List String := []
  /-- The operand with what belongs to it, once it is there. -/
  operand : Option (List String) := none
  /-- Arguments without a place. -/
  aside : List String := []
  deriving DecidableEq, Repr

namespace Findings

/-- The text of a flag: of several the last. -/
def text? (r : Findings) (label : String) : Option String := (r.texts.lookup label).join

end Findings

/-- The refusal of the use of a flag or operand. -/
def misuseOf {α : Type} (g : Grammar) (label message : String) : Except Refusal α :=
  .error (.misuse g s!"argument {label}: {message}")

/-- Note a flag with its text. -/
def note (g : Grammar) (r : Findings) (f : Flag) (text : Option String) :
    Except Refusal Findings :=
  match f.rivals.find? r.seen.contains with
  | some rival => misuseOf g f.label s!"not allowed with argument {rival}"
  | none =>
    let r := { r with seen := f.label :: r.seen }
    match f.effect with
    | .help => .error (.usage g true)
    | .count => .ok { r with count := r.count + 1 }
    | .take => .ok { r with texts := (f.label, text) :: r.texts }

/-- Note flags without texts. -/
def noteAll (g : Grammar) : Findings → List Flag → Except Refusal Findings
  | r, [] => .ok r
  | r, f :: rest =>
    match note g r f none with
    | .ok r => noteAll g r rest
    | .error e => .error e

/-- The flags that share the dash of a flag, with the last one and what is attached to it. -/
def unbundle (g : Grammar) (f : Flag) (name : String) :
    List Char → Except Refusal (List Flag × Flag × Option String)
  | [] => .ok ([], f, some "")
  | c :: rest =>
    let attached := String.ofList (c :: rest)
    if f.effect = .take ∨ ['-', '-'].isPrefixOf name.toList then .ok ([], f, some attached)
    else
      let next := String.ofList ['-', c]
      match g.flag? next with
      | none => misuseOf g f.label s!"ignored explicit argument {Value.quoted attached}"
      | some h =>
        if rest.isEmpty then .ok ([f], h, none)
        else match unbundle g h next rest with
          | .ok (fs, last, text) => .ok (f :: fs, last, text)
          | .error e => .error e

/-- Use a flag, with the arguments behind it; gives those left. -/
def useFlag (g : Grammar) (r : Findings) (u : FlagUse) (behind : List Argument) :
    Except Refusal (Findings × List Argument) := do
  let (bundle, last, attached) ← match u.attached with
    | none => .ok ([], u.flag, none)
    | some s => unbundle g u.flag u.name s.toList
  match last.effect, attached with
  | .take, some s =>
    let r ← noteAll g r bundle
    let r ← note g r last (if s = "--" then none else some s)
    pure (r, behind)
  | .take, none =>
    match behind with
    | .plain s :: behind =>
      let r ← noteAll g r bundle
      let r ← note g r last (some s)
      pure (r, behind)
    | _ => misuseOf g last.label "expected one argument"
  | _, some s => misuseOf g last.label s!"ignored explicit argument {Value.quoted s}"
  | _, none =>
    let r ← noteAll g r (bundle ++ [last])
    pure (r, behind)

/-- Take the operand from the front of the arguments, if it is still missing and lies there; gives
the arguments left. -/
def takeOperand (g : Grammar) (r : Findings) (args : List Argument) :
    Except Refusal (Option (Findings × List Argument)) :=
  if r.operand.isSome then .ok none
  else
    let body := args.dropWhile (· == .dashes)
    match g.operand, body with
    | .text _, .plain s :: rest =>
      .ok (some ({ r with operand := some [s] }, rest.dropWhile (· == .dashes)))
    | .command name choices, .plain _ :: _ =>
      let words := args.map Argument.text
      let word := words.headD ""
      if choices.contains word then .ok (some ({ r with operand := some words }, []))
      else
        let known := ", ".intercalate (choices.map Value.quoted)
        misuseOf g name s!"invalid choice: {Value.quoted word} (choose from {known})"
    | _, _ => .ok none

/-- Set arguments aside. -/
def setAside (r : Findings) (args : List Argument) : Findings :=
  { r with aside := r.aside ++ args.map Argument.text }

/-- Use up arguments from the front. Every round uses one at least; the fuel is their number. -/
def useUp (g : Grammar) : Nat → Findings → List Argument → Except Refusal Findings
  | 0, r, _ => .ok r
  | fuel + 1, r, args =>
    match args with
    | [] => .ok r
    | .flag _ u :: behind => do
      let (r, left) ← useFlag g r u behind
      useUp g fuel r left
    | .strangeFlag s :: behind => useUp g fuel (setAside r [.strangeFlag s]) behind
    | _ => do
      match ← takeOperand g r args with
      | some (r, left) => useUp g fuel r left
      | none =>
        useUp g fuel (setAside r (args.takeWhile (!·.isFlag))) (args.dropWhile (!·.isFlag))

/-- The names of what a grammar requires and what was not given. -/
def missing (g : Grammar) (r : Findings) : List String :=
  (g.flags.filter fun f => f.required && !r.seen.contains f.label).map Flag.label ++
    match g.operand, r.operand with
    | .text name, none => [name]
    | _, _ => []

/-- Read arguments by a grammar. -/
def Grammar.read (g : Grammar) (args : List String) : Except Refusal Findings := do
  let args ← Argument.ofTexts g args
  let r ← useUp g (args.length + 1) {} args
  match missing g r with
  | [] => pure r
  | names =>
    let list := ", ".intercalate names
    throw (.misuse g s!"the following arguments are required: {list}")

end TransferBucket.CommandLine
