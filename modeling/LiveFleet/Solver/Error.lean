/-
This file holds what can go wrong with a solver, and the token that tells a
computation that its result is no longer wanted. A token that has been
cancelled stays cancelled.
-/

namespace LiveFleet

/-- Why a solver, or a call to one, has failed. -/
inductive SolverError where
  | cancelled
  | alreadyInitialized
  | notInitialized
  | noSchedule
  | noSnapshot
  | entryCountMismatch (expected got : Nat)
  | failed (reason : String)
  | panicked (reason : String)
  | spawn (reason : String)
  | workerGone
  deriving DecidableEq, Repr

/-- The text of a solver error. -/
def SolverError.message : SolverError → String
  | cancelled => "computation was cancelled"
  | alreadyInitialized => "solver has already been initialized"
  | notInitialized => "solver has not been initialized"
  | noSchedule => "No schedule has been set"
  | noSnapshot => "no snapshot has been dispatched to this solver"
  | entryCountMismatch expected got =>
    s!"schedule has {got} entries but the snapshot had {expected} vehicles"
  | failed reason => s!"solver failed: {reason}"
  | panicked reason => s!"solver panicked: {reason}"
  | spawn reason => s!"could not start solver worker: {reason}"
  | workerGone => "solver worker has stopped"

/-- How a call into a solver can end without an answer. A panic may carry a text. -/
inductive SolverFailure where
  | refused (error : SolverError)
  | panicked (payload : Option String)
  deriving DecidableEq, Repr

/-- The error that a failure is reported as. -/
def SolverFailure.error : SolverFailure → SolverError
  | refused error => error
  | panicked payload => .panicked (payload.getD "non-string panic payload")

/-- The signal by which a computation learns that it is no longer wanted. -/
structure CancelToken where
  isCancelled : Bool
  deriving DecidableEq, Repr

namespace CancelToken

/-- A token that nobody has cancelled. -/
def fresh : CancelToken := ⟨false⟩

/-- Cancel the token, for good. -/
def cancel (_ : CancelToken) : CancelToken := ⟨true⟩

/-- Refuse to go on once the token has been cancelled. -/
def check (token : CancelToken) : Except SolverError Unit :=
  if token.isCancelled then .error .cancelled else .ok ()

/-- What a sleeper is told when it wakes, given the token at that moment: whether it has slept its
time out or was woken by a cancellation. -/
def wake (token : CancelToken) : Except SolverError Unit := token.check

end CancelToken

end LiveFleet
