import TransferBucket.Host
import TransferBucket.Value.Access

/-!
# Preferences

Values kept under keys in a JSON file of the user. Every step reads the whole file and, where it
changes something, writes the whole file anew. A file that is missing, cannot be opened or is no
JSON text counts as empty; what else the file may hold is found out where it is used.
-/

namespace TransferBucket.Preferences

open Host

/-- The path of the preferences file. -/
def path (h : Host) : String := Path.inside (settingsDirectory h.home) "preferences.json"

/-- Report a file that cannot be used, and take it as empty. -/
def ignore (file problem : String) : Action Host Failure Value := do
  inSession (Session.error s!"Failed to read preferences file {file}: {problem}")
  pure (.mapping [])

/-- What the preferences file holds. -/
def load : Action Host Failure Value := do
  let file ← .read path
  if ← isThere file then
    .resume (readText file) fun r => match r with
      | .error (.file e) => ignore file e.message
      | .error e => .fail e
      | .ok text => match Json.decode text.toList with
        | .ok v => pure v
        | .error (.tooLong digits) => .fail (.value (.json (.tooLong digits)))
        | .error e => ignore file e.message
  else pure (.mapping [])

/-- Write the preferences file, and its directory if that is missing. -/
def save (v : Value) : Action Host Failure Unit := do
  let directory ← .read fun h => settingsDirectory h.home
  let above := ((Path.names directory).filter (· ≠ "")).reverse
  match ← .read fun h => h.files.makeDirectories (Path.root directory) above with
  | .error e => .fail (.file e)
  | .ok files =>
    .modify fun h => { h with files }
    let file ← .read path
    match Json.encode (.indented 2) v with
    | .ok text => writeText file text
    | .error o => .fail (.ofObstacle o)

/-- The value under a key, null where there is none. -/
def get (key : Value) : Action Host Failure Value := do
  let v ← load
  let m ← .ofExcept v.members
  if key.isKey then pure ((Value.lookup? key m).getD .null)
  else .fail (.mismatch (.unhashable key.kindName))

/-- Whether a whole number is among the machine's numbers. -/
def isIndex (n : Int) : Bool := -9223372036854775808 ≤ n && n ≤ 9223372036854775807

/-- The place in a list that a key stands for: a whole number or truth value, counted from the end
where it is negative. -/
def place (items : List Value) (key : Value) : Except Failure Nat :=
  match key.wholeNumber? with
  | none => .error (.mismatch (.listIndex key.fullKindName))
  | some n =>
    let fromStart := if n < 0 then n + items.length else n
    if !isIndex n then .error (.index .size)
    else if fromStart < 0 ∨ (items.length : Int) ≤ fromStart then .error (.index .list)
    else .ok fromStart.toNat

/-- Why nothing is put under a key of a text: the text does not change, and a number that is too
large is refused before that is found out. -/
def unchangeable (s : String) (key : Value) : Failure :=
  let refusal : Failure := .mismatch (.noItemAssignment (Value.text s).kindName)
  match key with
  | .int n => if isIndex n then refusal else .index .size
  | _ => refusal

/-- What the file holds with a value put under a key. -/
def put (v key value : Value) : Except Failure Value :=
  match v with
  | .mapping m =>
    if key.isKey then .ok (.mapping (Value.insert key value m))
    else .error (.mismatch (.unhashable key.kindName))
  | .list items => (place items key).map fun i => .list (items.set i value)
  | .text s => .error (unchangeable s key)
  | v => .error (.mismatch (.noItemAssignment v.fullKindName))

/-- Keep a value under a key. -/
def set (key value : Value) : Action Host Failure Unit := do
  let v ← load
  let changed ← .ofExcept (put v key value)
  save changed
  inSession (Session.info s!"Preference '{key.display}' set to: {value.display}")

/-- What the file holds without a key. -/
def drop (v key : Value) : Except Failure Value :=
  match v with
  | .mapping m => .ok (.mapping (Value.erase key m))
  | .list items => (place items key).map fun i => .list (items.eraseIdx i)
  | v => .error (.mismatch (.noItemDeletion v.fullKindName))

/-- Forget the value under a key. -/
def clear (key : Value) : Action Host Failure Unit := do
  let v ← load
  if ← .ofExcept (v.holds key) then
    let changed ← .ofExcept (drop v key)
    save changed
    inSession (Session.info s!"Preference '{key.display}' cleared")
  else
    inSession (Session.debug s!"Preference '{key.display}' not found, nothing to clear")

end TransferBucket.Preferences
