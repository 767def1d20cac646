import TransferBucket.Value
import TransferBucket.Calendar

/-!
# The state of a cloud

What the remote services hold: accounts, buckets with their objects and access policies, stored
secrets, and the number of tokens issued. Accounts and buckets are kept in the order in which they
were made.
-/

namespace TransferBucket

/-- A service account: its e-mail address, its full name and its description. -/
structure Account where
  email : String
  name : String
  description : String
  deriving DecidableEq, Repr, Inhabited

/-- One binding of an access policy: a role for some members, perhaps under a condition. Any part
may be missing, and others may be there. -/
structure Binding where
  role : Option Value
  members : Option Value
  condition : Option Value
  other : List (String × Value) := []
  deriving DecidableEq, Inhabited

/-- A bucket. -/
structure Bucket where
  name : Value
  location : Value
  storageClass : Value
  objects : List String := []
  bindings : List Binding := []
  deriving DecidableEq, Inhabited

/-- What the remote services hold. -/
structure Cloud where
  accounts : List Account := []
  buckets : List Bucket := []
  secrets : List (String × List UInt8) := []
  tokensIssued : Nat := 0
  /-- The instant at which a token issued now ends. -/
  tokenEnd : Instant := ⟨1700000000000000⟩
  deriving DecidableEq, Inhabited

namespace Cloud

/-- The bucket with a name. -/
def bucket? (c : Cloud) (name : Value) : Option Bucket := c.buckets.find? fun b => b.name = name

/-- The account with a full name. -/
def account? (c : Cloud) (name : String) : Option Account :=
  c.accounts.find? fun a => a.name = name

/-- The bytes of the secret with a full name. -/
def secret? (c : Cloud) (name : String) : Option (List UInt8) :=
  (c.secrets.find? fun s => s.1 = name).map (·.2)

/-- Add an account. -/
def addAccount (c : Cloud) (a : Account) : Cloud := { c with accounts := c.accounts ++ [a] }

/-- Take the accounts with a full name away. -/
def dropAccount (c : Cloud) (name : String) : Cloud :=
  { c with accounts := c.accounts.filter fun a => a.name ≠ name }

/-- Take the accounts with an e-mail address away. -/
def dropEmail (c : Cloud) (email : String) : Cloud :=
  { c with accounts := c.accounts.filter fun a => a.email ≠ email }

/-- Add a bucket. -/
def addBucket (c : Cloud) (b : Bucket) : Cloud := { c with buckets := c.buckets ++ [b] }

/-- Change the bucket with a name. -/
def changeBucket (c : Cloud) (name : Value) (f : Bucket → Bucket) : Cloud :=
  { c with buckets := c.buckets.map fun b => if b.name = name then f b else b }

/-- Store the policy of a bucket. -/
def setBindings (c : Cloud) (name : Value) (bindings : List Binding) : Cloud :=
  c.changeBucket name fun b => { b with bindings }

/-- Put an object into a bucket. -/
def putObject (c : Cloud) (name : Value) (object : String) : Cloud :=
  c.changeBucket name fun b => { b with objects := b.objects ++ [object] }

/-- Store the bytes of a secret. -/
def setSecret (c : Cloud) (name : String) (bytes : List UInt8) : Cloud :=
  { c with secrets := (name, bytes) :: c.secrets.filter fun s => s.1 ≠ name }

/-! ## What a look-up finds -/

theorem mem_of_account? {c : Cloud} {name : String} {a : Account} (h : c.account? name = some a) :
    a ∈ c.accounts := List.mem_of_find?_eq_some h

theorem name_of_account? {c : Cloud} {name : String} {a : Account} (h : c.account? name = some a) :
    a.name = name := by
  simpa using List.find?_some h

theorem account?_eq_none_iff {c : Cloud} {name : String} :
    c.account? name = none ↔ ∀ a ∈ c.accounts, a.name ≠ name := by
  simp [account?]

/-- An account added under a new name is found. -/
theorem account?_addAccount_self {c : Cloud} {a : Account} (h : c.account? a.name = none) :
    (c.addAccount a).account? a.name = some a := by
  simp only [account?] at h
  simp [account?, addAccount, h]

theorem account?_addAccount_of_ne (c : Cloud) {a : Account} {name : String} (h : a.name ≠ name) :
    (c.addAccount a).account? name = c.account? name := by
  simp [account?, addAccount, h]

/-- An account added under a new name leaves all names different. -/
theorem nodup_names_addAccount {c : Cloud} {a : Account} (hc : (c.accounts.map (·.name)).Nodup)
    (h : c.account? a.name = none) : ((c.addAccount a).accounts.map (·.name)).Nodup := by
  rw [addAccount, List.map_append, List.nodup_append]
  refine ⟨hc, by simp, fun n hn m hm => ?_⟩
  obtain ⟨b, hb, rfl⟩ := List.mem_map.1 hn
  rw [List.mem_singleton.1 hm]
  exact account?_eq_none_iff.1 h b hb

theorem mem_accounts_dropAccount {c : Cloud} {name : String} {a : Account} :
    a ∈ (c.dropAccount name).accounts ↔ a ∈ c.accounts ∧ a.name ≠ name := by
  simp [dropAccount]

theorem mem_of_bucket? {c : Cloud} {name : Value} {b : Bucket} (h : c.bucket? name = some b) :
    b ∈ c.buckets := List.mem_of_find?_eq_some h

theorem name_of_bucket? {c : Cloud} {name : Value} {b : Bucket} (h : c.bucket? name = some b) :
    b.name = name := by
  simpa using List.find?_some h

/-- A bucket added under a new name is found. -/
theorem bucket?_addBucket_self {c : Cloud} {b : Bucket} (h : c.bucket? b.name = none) :
    (c.addBucket b).bucket? b.name = some b := by
  simp only [bucket?] at h
  simp [bucket?, addBucket, h]

theorem bucket?_addBucket_of_ne (c : Cloud) {b : Bucket} {name : Value} (h : b.name ≠ name) :
    (c.addBucket b).bucket? name = c.bucket? name := by
  simp [bucket?, addBucket, h]

/-- A bucket whose policy is stored is found with the policy, and else as it was. -/
theorem bucket?_setBindings_self {c : Cloud} {name : Value} {b : Bucket}
    (h : c.bucket? name = some b) (bindings : List Binding) :
    (c.setBindings name bindings).bucket? name = some { b with bindings } := by
  have hkept : ((fun b : Bucket => decide (b.name = name)) ∘
      fun b => if b.name = name then { b with bindings } else b) = fun b => decide (b.name = name) := by
    funext b
    simp only [Function.comp_apply]
    split <;> rfl
  rw [bucket?] at h
  rw [bucket?, setBindings, changeBucket, List.find?_map, hkept, h, Option.map_some,
    if_pos (name_of_bucket? h)]

/-- Of two policies stored one after the other the second one stays. -/
theorem setBindings_setBindings (c : Cloud) (name : Value) (before bindings : List Binding) :
    (c.setBindings name before).setBindings name bindings = c.setBindings name bindings := by
  rw [setBindings, changeBucket, setBindings, changeBucket, List.map_map]
  congr 2
  funext b
  by_cases h : b.name = name <;> simp [h]

@[simp]
theorem secret?_setSecret_self (c : Cloud) (name : String) (bytes : List UInt8) :
    (c.setSecret name bytes).secret? name = some bytes := by
  simp [secret?, setSecret]

theorem secret?_setSecret_of_ne (c : Cloud) {name other : String} (h : other ≠ name)
    (bytes : List UInt8) : (c.setSecret name bytes).secret? other = c.secret? other := by
  simp only [secret?, setSecret, List.find?_cons, decide_eq_false (Ne.symm h), List.find?_filter]
  congr 2
  funext s
  by_cases hs : s.1 = other <;> simp [hs, h]

end Cloud

end TransferBucket
