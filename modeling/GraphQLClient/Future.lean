import GraphQLClient.Timeline

/-!
Work that may have to wait, as a tree of requests: it can use a state of its own, look at the clock,
see and fire handles, report, and wait. One poll goes on until the work is done or waits;
`complete` lets time pass between polls until it is done. `untilFired` is the same work given up as
soon as a poll begins with the handle fired.
-/

namespace GraphQLClient

inductive Future (σ α : Type) where
  | done (value : α)
  | read (next : σ → Future σ α)
  | write (state : σ) (next : Future σ α)
  | clock (next : Nat → Future σ α)
  | isFired (h : Handle) (next : Bool → Future σ α)
  | fire (h : Handle) (next : Bool → Future σ α)
  | newHandle (next : Handle → Future σ α)
  | report (notice : Notice) (next : Future σ α)
  | wait (wait : Wait) (next : Future σ α)

/-- A state of the work itself, and the timeline that all work shares. -/
structure Session (σ : Type) where
  state : σ
  timeline : Timeline := {}
  /-- The time beyond which nothing is waited for. -/
  deadline : Option Nat := none

/-- The session when a wait is over, unless that lies beyond the deadline. -/
def Session.afterWait? {σ : Type} (s : Session σ) (w : Wait) : Option (Session σ) :=
  match s.timeline.afterWait? w with
  | none => none
  | some t => if s.deadline.all (t.now ≤ ·) then some { s with timeline := t } else none

namespace Future

variable {σ α β : Type}

def bind : Future σ α → (α → Future σ β) → Future σ β
  | .done v, f => f v
  | .read k, f => .read fun s => (k s).bind f
  | .write s k, f => .write s (k.bind f)
  | .clock k, f => .clock fun n => (k n).bind f
  | .isFired h k, f => .isFired h fun b => (k b).bind f
  | .fire h k, f => .fire h fun b => (k b).bind f
  | .newHandle k, f => .newHandle fun h => (k h).bind f
  | .report n k, f => .report n (k.bind f)
  | .wait w k, f => .wait w (k.bind f)

instance : Monad (Future σ) where
  pure := .done
  bind := .bind

def get : Future σ σ := .read .done
def modify (f : σ → σ) : Future σ Unit := .read fun s => .write (f s) (.done ())

def reportAll : List Notice → Future σ Unit
  | [] => .done ()
  | n :: rest => .report n (reportAll rest)

/-- Waits for so many milliseconds; none is no wait. -/
def sleep (ms : Nat) : Future σ Unit :=
  if ms = 0 then .done () else .clock fun now => .wait (.upTo (now + ms)) (.done ())

/-- Lets a poll end here and goes on at once. -/
def yieldOnce : Future σ Unit := .clock fun now => .wait (.upTo now) (.done ())

/-- Fires a handle, if there is one. -/
def fire? : Option Handle → Future σ Unit
  | some h => .fire h fun _ => .done ()
  | none => .done ()

def never : Future σ α → Future σ α := .wait {}

/-- Waits until a handle has fired. -/
def cancelled (h : Handle) : Future σ Unit :=
  .isFired h fun b => if b then .done () else .wait (.firing h) (.done ())

/-- The rest of some work, given up as soon as a later poll begins with the handle fired. -/
def guarded (h : Handle) : Future σ α → Future σ (Option α)
  | .done v => .done (some v)
  | .read k => .read fun s => (k s).guarded h
  | .write s k => .write s (k.guarded h)
  | .clock k => .clock fun n => (k n).guarded h
  | .isFired h' k => .isFired h' fun b => (k b).guarded h
  | .fire h' k => .fire h' fun b => (k b).guarded h
  | .newHandle k => .newHandle fun h' => (k h').guarded h
  | .report n k => .report n (k.guarded h)
  | .wait w k =>
    .wait (w.orFiring h) (.isFired h fun b => if b then .done none else k.guarded h)

/-- Some work, given up as soon as a poll begins with the handle fired. -/
def untilFired (h : Handle) (f : Future σ α) : Future σ (Option α) :=
  .isFired h fun b => if b then .done none else f.guarded h

/-- What there is of some work when a poll is over. -/
inductive Polled (σ α : Type) where
  | ready (value : α)
  | waiting (wait : Wait) (rest : Future σ α)

/-- Goes on until the work is done or waits. -/
def poll : Future σ α → Session σ → Polled σ α × Session σ
  | .done v, w => (.ready v, w)
  | .read k, w => (k w.state).poll w
  | .write s k, w => k.poll { w with state := s }
  | .clock k, w => (k w.timeline.now).poll w
  | .isFired h k, w => (k (w.timeline.isFired h)).poll w
  | .fire h k, w =>
    let r := w.timeline.fire h
    (k r.1).poll { w with timeline := r.2 }
  | .newHandle k, w =>
    let r := w.timeline.newHandle
    (k r.1).poll { w with timeline := r.2 }
  | .report n k, w => k.poll { w with timeline := w.timeline.report [n] }
  | .wait wt k, w => (.waiting wt k, w)

/-- Goes on with work that waits, if its wait is over. -/
def Polled.again : Polled σ α → Session σ → Polled σ α × Session σ
  | .ready v, w => (.ready v, w)
  | .waiting wt rest, w => if w.timeline.isOver wt then rest.poll w else (.waiting wt rest, w)

/-- Lets the work come to its end, time passing where it waits; `none` if it waits too long. -/
def complete : Future σ α → Session σ → Option α × Session σ
  | .done v, w => (some v, w)
  | .read k, w => (k w.state).complete w
  | .write s k, w => k.complete { w with state := s }
  | .clock k, w => (k w.timeline.now).complete w
  | .isFired h k, w => (k (w.timeline.isFired h)).complete w
  | .fire h k, w =>
    let r := w.timeline.fire h
    (k r.1).complete { w with timeline := r.2 }
  | .newHandle k, w =>
    let r := w.timeline.newHandle
    (k r.1).complete { w with timeline := r.2 }
  | .report n k, w => k.complete { w with timeline := w.timeline.report [n] }
  | .wait wt k, w =>
    match w.afterWait? wt with
    | some w => k.complete w
    | none => (none, w)

end Future

end GraphQLClient
