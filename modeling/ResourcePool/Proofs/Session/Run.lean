import ResourcePool.Session

/-! Runs of a session. A client of a fixed pool claims resources and gives them back; what both moves
keep is kept by any run of them. -/

namespace ResourcePool
namespace Session

/-- The session after steps in a row. -/
def after (s : Session) (steps : List Step) : Session :=
  steps.foldl (fun s step => (s.take step).2.2) s

/-- What the steps come to, one after the other. -/
def answers (s : Session) : List Step → List Answer
  | [] => []
  | step :: rest => (s.take step).1 :: (s.take step).2.2.answers rest

theorem after_cons (s : Session) (step : Step) (rest : List Step) :
    s.after (step :: rest) = (s.take step).2.2.after rest := rfl

/-- A claim comes first: the run goes on with what it left. -/
theorem after_claim (kind : Kind) (properties : Bag) (held : List Bag) (input : Bag)
    (script : Option (List UInt64)) (rest : List Step) :
    (⟨kind, properties, held⟩ : Session).after (.allocate input script :: rest) =
      ((⟨kind, properties, held⟩ : Session).keep
        (Snapshot.allocate ⟨properties, held, input⟩ kind script).result).after rest :=
  after_cons ..

end Session

/-- What a client of a fixed pool can do: claim with any input and any randomness, or give back. -/
inductive Move where
  | claim (input : Bag) (script : Option (List UInt64))
  | giveBack (index : Nat)

def Move.step : Move → Step
  | claim input script => .allocate input script
  | giveBack index => .release index

namespace Session
variable {kind : Kind} {properties : Bag} {held : List Bag}

/-- What claims and returns keep holds after any run of them. -/
theorem after_moves {P : List Bag → Prop}
    (claim : ∀ held input script bag, P held →
      (Snapshot.allocate ⟨properties, held, input⟩ kind script).result = .ok bag → P (held ++ [bag]))
    (giveBack : ∀ held index, P held → P (held.eraseIdx index)) (moves : List Move) (h : P held) :
    ∃ held', (⟨kind, properties, held⟩ : Session).after (moves.map Move.step) =
      ⟨kind, properties, held'⟩ ∧ P held' := by
  induction moves generalizing held with
  | nil => exact ⟨held, rfl, h⟩
  | cons move rest ih =>
    cases move with
    | claim input script =>
      rw [List.map_cons, Move.step, after_claim]
      cases granted : (Snapshot.allocate ⟨properties, held, input⟩ kind script).result with
      | ok bag => exact ih (claim held input script bag h granted)
      | error e => exact ih h
    | giveBack index => exact ih (giveBack held index h)

end Session
end ResourcePool
