import GraphQLClient.Future

/-!
Runs: the steps of a call carried out one after another, each to its end. A run ends with a value or
a failure; it may also stall, when it waits for something that does not come before the deadline, or
use up the attempts that it was given.
-/

namespace GraphQLClient

inductive Outcome (α : Type) where
  | value (value : α)
  | failure (failure : Failure)
  | stalled
  | outOfAttempts

/-- A computation over a session that may fail. -/
def Run (σ α : Type) := Session σ → Outcome α × Session σ

namespace Run

variable {σ α β : Type}

def bind (r : Run σ α) (f : α → Run σ β) : Run σ β := fun s =>
  match r s with
  | (.value v, s) => f v s
  | (.failure e, s) => (.failure e, s)
  | (.stalled, s) => (.stalled, s)
  | (.outOfAttempts, s) => (.outOfAttempts, s)

instance : Monad (Run σ) where
  pure v := fun s => (.value v, s)
  bind := bind

def fail (f : Failure) : Run σ α := fun s => (.failure f, s)

def record (e : Event) : Run σ Unit :=
  fun s => (.value (), { s with timeline := s.timeline.record e })

def ofExcept : Except Failure α → Run σ α
  | .ok v => pure v
  | .error f => fail f

/-- Cleans up behind a run that fails. -/
def onFailure (r : Run σ α) (cleanup : Session σ → Session σ) : Run σ α := fun s =>
  match r s with
  | (.failure e, s) => (.failure e, cleanup s)
  | (.value v, s) => (.value v, s)
  | (.stalled, s) => (.stalled, s)
  | (.outOfAttempts, s) => (.outOfAttempts, s)

/-- Waits for some work. -/
def await (f : Future σ α) : Run σ α := fun s =>
  match f.complete s with
  | (some v, s) => (.value v, s)
  | (none, s) => (.stalled, s)

/-- Waits for some work that may fail. -/
def awaitOk (f : Future σ (Except Failure α)) : Run σ α := (await f).bind ofExcept

end Run

end GraphQLClient
