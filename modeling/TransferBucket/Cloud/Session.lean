import TransferBucket.Action
import TransferBucket.Cloud.Fault
import TransferBucket.Cloud.Call

/-!
# Sessions

The state through which the program runs: the cloud, the faults planned for the calls to come, the
environment of the process, what the vault remembers, which clients are open, and two journals,
the calls made and the messages logged.
-/

namespace TransferBucket

/-! ## Plans -/

/-- What is planned for one call instead of its usual work. -/
inductive Plan where
  /-- The call ends in a fault. -/
  | raise (fault : Fault)
  /-- A look-up finds nothing and a list is empty; other calls work as usual. -/
  | stale
  /-- A list gives so many items and then ends in a fault. -/
  | raiseAfter (items : Nat) (fault : Fault)
  deriving DecidableEq, Repr

/-- The plans for the calls to come of every method, in order; `none` plans nothing. -/
abbrev Schedule := Method → List (Option Plan)

/-- The schedule that plans nothing. -/
def Schedule.none : Schedule := fun _ => []

/-- Append plans for a method. -/
def Schedule.append (s : Schedule) (m : Method) (plans : List (Option Plan)) : Schedule :=
  fun n => if n = m then s n ++ plans else s n

/-- Take the first plan for a method away. -/
def Schedule.drop (s : Schedule) (m : Method) : Schedule :=
  fun n => if n = m then (s n).tail else s n

namespace Schedule

@[simp]
theorem append_self (s : Schedule) (m : Method) (plans : List (Option Plan)) :
    s.append m plans m = s m ++ plans := if_pos rfl

theorem append_of_ne (s : Schedule) {m n : Method} (h : n ≠ m) (plans : List (Option Plan)) :
    s.append m plans n = s n := if_neg h

@[simp]
theorem drop_self (s : Schedule) (m : Method) : s.drop m m = (s m).tail := if_pos rfl

theorem drop_of_ne (s : Schedule) {m n : Method} (h : n ≠ m) : s.drop m n = s n := if_neg h

/-- Where nothing is planned there is nothing to take away. -/
@[simp]
theorem drop_none (m : Method) : Schedule.none.drop m = Schedule.none := by
  funext n
  by_cases h : n = m <;> simp [drop, Schedule.none, h]

end Schedule

/-! ## Journals -/

/-- How important a message is. -/
inductive Level where
  | debug
  | info
  | warning
  | error
  | critical
  deriving DecidableEq, Repr

/-- The rank of a level; `0` lies below all. -/
def Level.rank : Level → Nat
  | .debug => 10
  | .info => 20
  | .warning => 30
  | .error => 40
  | .critical => 50

/-- The name of a level. -/
def Level.name : Level → String
  | .debug => "DEBUG"
  | .info => "INFO"
  | .warning => "WARNING"
  | .error => "ERROR"
  | .critical => "CRITICAL"

/-- A message with its level. -/
structure LogRecord where
  level : Level
  message : String
  deriving DecidableEq, Repr

/-! ## The surroundings -/

/-- The variables of the process, each name once. -/
abbrev Environment := List (String × String)

namespace Environment

/-- The value of a variable. -/
def get? (e : Environment) (name : String) : Option String :=
  (List.find? (fun v => v.1 = name) e).map (·.2)

/-- Give a variable a value. -/
def set (e : Environment) (name value : String) : Environment :=
  (name, value) :: List.filter (fun v => v.1 ≠ name) e

/-- Take a variable away. -/
def unset (e : Environment) (name : String) : Environment :=
  List.filter (fun v => v.1 ≠ name) e

theorem get?_unset_self (e : Environment) (name : String) : (e.unset name).get? name = none := by
  simp [get?, unset]

theorem get?_unset_of_ne (e : Environment) {name other : String} (h : other ≠ name) :
    (e.unset name).get? other = e.get? other := by
  simp only [get?, unset, List.find?_filter]
  congr 2
  funext v
  by_cases hv : v.1 = other <;> simp [hv, h]

@[simp]
theorem get?_set_self (e : Environment) (name value : String) :
    (e.set name value).get? name = some value := by
  simp [get?, set]

theorem get?_set_of_ne (e : Environment) {name other : String} (h : other ≠ name)
    (value : String) : (e.set name value).get? other = e.get? other := by
  have hu := get?_unset_of_ne e h
  simp only [get?, unset] at hu
  simp only [get?, set, List.find?_cons, decide_eq_false (Ne.symm h), hu]

end Environment

/-- Where a vault looks. -/
inductive VaultKind where
  /-- In the environment only. -/
  | environment
  /-- In the secrets of a project, and before that in the environment if `environmentFirst`. -/
  | secrets (project : Value) (environmentFirst : Bool)
  deriving DecidableEq

/-- A vault: where it looks, the texts it has fetched, and whether its client is open. -/
structure Vault where
  kind : VaultKind
  fetched : List (Value × String) := []
  isOpen : Bool := false
  deriving DecidableEq

/-- Which clients the steps on buckets and accounts have open. -/
structure Links where
  storage : Bool := false
  identity : Bool := false
  issuer : Bool := false
  deriving DecidableEq, Repr

/-! ## Sessions -/

/-- The state through which the program runs. -/
structure Session where
  cloud : Cloud := {}
  schedule : Schedule := .none
  environment : Environment := []
  vault : Vault
  links : Links := {}
  calls : List Call := []
  log : List LogRecord := []

namespace Session

variable {ε : Type}

/-- Log a message. -/
def note (level : Level) (message : String) : Action Session ε Unit :=
  .modify fun s => { s with log := s.log ++ [⟨level, message⟩] }

/-- Log a message for those who look for errors in the program. -/
def debug (message : String) : Action Session ε Unit := note .debug message

/-- Log a message about what goes on. -/
def info (message : String) : Action Session ε Unit := note .info message

/-- Log a message about something odd. -/
def warning (message : String) : Action Session ε Unit := note .warning message

/-- Log a message about something that failed. -/
def error (message : String) : Action Session ε Unit := note .error message

/-- Change the cloud. -/
def changeCloud (f : Cloud → Cloud) : Action Session ε Unit :=
  .modify fun s => { s with cloud := f s.cloud }

/-- Change the vault. -/
def changeVault (f : Vault → Vault) : Action Session ε Unit :=
  .modify fun s => { s with vault := f s.vault }

/-- Change which clients are open. -/
def changeLinks (f : Links → Links) : Action Session ε Unit :=
  .modify fun s => { s with links := f s.links }

/-- Write a call into the journal and take the plan for it. -/
def announce (c : Call) : Action Session ε (Option Plan) := fun s =>
  (.ok ((s.schedule c.method).head?.join),
    { s with calls := s.calls ++ [c], schedule := s.schedule.drop c.method })

theorem announce_apply (c : Call) (s : Session) :
    (announce c : Action Session ε (Option Plan)) s = (.ok ((s.schedule c.method).head?.join),
      { s with calls := s.calls ++ [c], schedule := s.schedule.drop c.method }) := rfl

end Session

end TransferBucket
