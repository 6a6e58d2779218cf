import ResourcePool.Error

/-!
Log records, and computations that leave them. No operation writes a record: each says, beside its
result, which records belong to it, and the outermost layer decides where they go. The records of all
steps up to a failure are kept. Taking the result of a computation commutes with sequencing, so a
statement about a result never needs to mention a record.
-/

namespace ResourcePool

inductive Level where
  | error
  | warn
  | info
  | debug
deriving DecidableEq

/-- One line of the log. -/
structure Record where
  level : Level
  text : String
deriving DecidableEq

def Level.name : Level → String
  | .error => "ERROR"
  | .warn => "WARN"
  | .info => "INFO"
  | .debug => "DEBUG"

/-- A result or a failure, with the records left on the way to it. -/
structure Logged (α : Type) where
  records : List Record
  result : Except Error α

namespace Logged

instance : Monad Logged where
  pure a := ⟨[], .ok a⟩
  bind x f :=
    match x.result with
    | .ok a => ⟨x.records ++ (f a).records, (f a).result⟩
    | .error e => ⟨x.records, .error e⟩

/-- A computation that leaves no record. -/
def quiet (result : Except Error α) : Logged α := ⟨[], result⟩

instance : MonadLift (Except Error) Logged := ⟨quiet⟩

/-- Leaves one record. -/
def record (level : Level) (text : String) : Logged Unit := ⟨[⟨level, text⟩], .ok ()⟩

/-- Leaves records. -/
def recordAll (records : List Record) : Logged Unit := ⟨records, .ok ()⟩

def fail (e : Error) : Logged α := quiet (.error e)

@[simp] theorem result_pure (a : α) : (pure a : Logged α).result = .ok a := rfl

@[simp] theorem result_bind (x : Logged α) (f : α → Logged β) :
    (x >>= f).result = x.result.bind fun a => (f a).result := by
  show (match x.result with | .ok a => _ | .error e => _ : Logged β).result = _
  cases x.result <;> rfl

@[simp] theorem result_quiet (r : Except Error α) : (quiet r).result = r := rfl

@[simp] theorem result_record (level : Level) (text : String) :
    (record level text).result = .ok () := rfl

@[simp] theorem result_recordAll (records : List Record) : (recordAll records).result = .ok () := rfl

@[simp] theorem result_fail (e : Error) : (fail e : Logged α).result = .error e := rfl

end Logged

end ResourcePool
