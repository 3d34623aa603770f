namespace SessionBoard

/-- What is known of the executions that have not settled. -/
inductive Slot
  | idle
  | pending (id : Nat)
  | queued (id followUp : Nat)
  deriving DecidableEq, Repr, Inhabited

/-- The slot after an execution settled: its follow-up becomes the pending one. -/
def Slot.settle : Slot → (id : Nat) → Slot
  | .idle, _ => .idle
  | .pending current, id => if current = id then .idle else .pending current
  | .queued current followUp, id =>
    if current = id then .pending followUp else .queued current followUp

/-- How far an execution has come. It is launched, to begin once the flight that it comes after has resolved; it
runs with the progress `σ` of its operation until that has returned; then the slot learns that it has settled,
and only after that its flight is resolved with the outcome. -/
inductive Stage (σ α : Type)
  | launched (after : Option Nat)
  | running (progress : σ)
  | returned (outcome : Option α)
  | settled (outcome : Option α)
  | resolved (outcome : Option α)
  deriving DecidableEq, Repr

/-- Coalescing of requests: at most one execution is under way, and at most one more waits to follow it. A
request that finds one under way is answered by the execution after it, which has not begun yet. Executions are
numbered in the order of their launch, and a flight is the number of the execution whose outcome it waits for.
An outcome of `none` means that the execution was aborted. -/
structure SingleFlight (σ α : Type) where
  slot : Slot := .idle
  executions : List (Stage σ α) := []
  deriving Repr

namespace SingleFlight

variable {σ α : Type}

/-- Requests an execution and gives the flight that answers the request. -/
def trigger (flights : SingleFlight σ α) : SingleFlight σ α × Nat :=
  let id := flights.executions.length
  match flights.slot with
  | .idle => (⟨.pending id, flights.executions ++ [.launched none]⟩, id)
  | .pending current =>
    (⟨.queued current id, flights.executions ++ [.launched (some current)]⟩, id)
  | .queued _ followUp => (flights, followUp)

def stage? (flights : SingleFlight σ α) (id : Nat) : Option (Stage σ α) :=
  flights.executions[id]?

def outcome? (flights : SingleFlight σ α) (id : Nat) : Option (Option α) :=
  match flights.stage? id with
  | some (.resolved outcome) => some outcome
  | _ => none

def withStage (flights : SingleFlight σ α) (id : Nat) (stage : Stage σ α) : SingleFlight σ α :=
  { flights with executions := flights.executions.set id stage }

/-- Calls the operation of a launched execution, unless another one has to resolve before. -/
def begin? (flights : SingleFlight σ α) (id : Nat) (progress : σ) : Option (SingleFlight σ α) :=
  match flights.stage? id with
  | some (.launched none) => some (flights.withStage id (.running progress))
  | some (.launched (some before)) =>
    if (flights.outcome? before).isSome then some (flights.withStage id (.running progress)) else none
  | _ => none

def report? (flights : SingleFlight σ α) (id : Nat) (progress : σ) : Option (SingleFlight σ α) :=
  match flights.stage? id with
  | some (.running _) => some (flights.withStage id (.running progress))
  | _ => none

def finish? (flights : SingleFlight σ α) (id : Nat) (outcome : Option α) :
    Option (SingleFlight σ α) :=
  match flights.stage? id with
  | some (.running _) => some (flights.withStage id (.returned outcome))
  | _ => none

/-- Releases the slot of an ended operation, which lets its follow-up become the pending one before
anybody learns the outcome. -/
def settle? (flights : SingleFlight σ α) (id : Nat) : Option (SingleFlight σ α) :=
  match flights.stage? id with
  | some (.returned outcome) =>
    some { flights.withStage id (.settled outcome) with slot := flights.slot.settle id }
  | _ => none

/-- Hands the outcome to everybody who holds the flight. -/
def resolve? (flights : SingleFlight σ α) (id : Nat) : Option (SingleFlight σ α) :=
  match flights.stage? id with
  | some (.settled outcome) => some (flights.withStage id (.resolved outcome))
  | _ => none

/-- The next step of an execution that needs nothing from its operation any more. -/
def unwind? (flights : SingleFlight σ α) (id : Nat) : Option (SingleFlight σ α) :=
  flights.settle? id <|> flights.resolve? id

def begun (flights : SingleFlight σ α) : Nat :=
  flights.executions.countP fun
    | .launched _ => false
    | _ => true

def underWay (flights : SingleFlight σ α) : Nat :=
  flights.executions.countP fun
    | .running _ => true
    | _ => false

def firstUnderWay? (flights : SingleFlight σ α) : Option Nat :=
  flights.executions.findIdx? fun
    | .running _ => true
    | _ => false

/-- Takes every step that an execution can take without its operation. -/
def drainOne (progress : σ) (flights : SingleFlight σ α) (id : Nat) : SingleFlight σ α :=
  let flights := (flights.settle? id).getD flights
  let flights := (flights.resolve? id).getD flights
  (flights.begin? id progress).getD flights

/-- Takes every step that can be taken without an operation. One pass in the order of launch will
do, since an execution only ever waits for an earlier one. -/
def drain (progress : σ) (flights : SingleFlight σ α) : SingleFlight σ α :=
  (List.range flights.executions.length).foldl (drainOne progress) flights

end SingleFlight

end SessionBoard
