import GraphQLClient.Trace.Event

/-!
The clock, the handles that have fired, the alarms that will fire more of them, and what has
happened so far. Time stands still while anything can run and then moves on to the next moment at
which something can; alarms that are due by then fire first. A handle that has fired stays fired.
-/

namespace GraphQLClient

/-- A handle that fires by itself at some time. -/
structure Alarm where
  time : Nat
  handle : Handle

/-- What a task waits for: a time, or any of some handles. Without either it waits for ever. -/
structure Wait where
  deadline : Option Nat := none
  handles : List Handle := []

namespace Wait

def upTo (time : Nat) : Wait := { deadline := some time }
def firing (h : Handle) : Wait := { handles := [h] }
def orFiring (w : Wait) (h : Handle) : Wait := { w with handles := h :: w.handles }

end Wait

structure Timeline where
  now : Nat := 0
  fired : List Handle := []
  alarms : List Alarm := []
  /-- The number of the next new handle. -/
  fresh : Nat := 0
  events : List Event := []

namespace Timeline

def isFired (t : Timeline) (h : Handle) : Bool := t.fired.contains h

/-- Fires a handle; says whether it had not fired before. -/
def fire (t : Timeline) (h : Handle) : Bool × Timeline :=
  if t.isFired h then (false, t) else (true, { t with fired := h :: t.fired })

def newHandle (t : Timeline) : Handle × Timeline := (⟨t.fresh⟩, { t with fresh := t.fresh + 1 })

def record (t : Timeline) (e : Event) : Timeline := { t with events := t.events ++ [e] }

def report (t : Timeline) (ns : List Notice) : Timeline :=
  { t with events := t.events ++ ns.map .notice }

def setAlarm (t : Timeline) (delay : Nat) (h : Handle) : Timeline :=
  { t with alarms := t.alarms ++ [⟨t.now + delay, h⟩] }

/-- The same at a later time, with the alarms that are due by then. -/
def moveTo (t : Timeline) (time : Nat) : Timeline :=
  let now := max t.now time
  let due := t.alarms.filter (·.time ≤ now)
  { t with
    now
    alarms := t.alarms.filter (now < ·.time)
    fired := due.foldl (fun f a => if f.contains a.handle then f else a.handle :: f) t.fired }

def isOver (t : Timeline) (w : Wait) : Bool :=
  w.handles.any t.isFired || w.deadline.any (· ≤ t.now)

/-- The times at which a wait can end. -/
def wakeTimes (t : Timeline) (w : Wait) : List Nat :=
  w.deadline.toList ++
    (t.alarms.filter (w.handles.contains ·.handle)).map (·.time)

/-- When a wait ends, if it ever does. -/
def wakeTime? (t : Timeline) (w : Wait) : Option Nat :=
  if t.isOver w then some t.now else (t.wakeTimes w).min?

/-- The moment at which a wait is over, unless it lasts for ever. -/
def afterWait? (t : Timeline) (w : Wait) : Option Timeline := (t.wakeTime? w).map t.moveTo

end Timeline

/-- What asking a task to go on brings: its value, or what it waits for. -/
inductive Poll (α : Type) where
  | ready (value : α)
  | waiting (wait : Wait)

/--
Goes on with a task as often as it can until it is ready or the deadline has come, in at most `fuel`
turns.
-/
def Timeline.waitFor {α β : Type} (poll : β → Timeline → Poll α × β × Timeline) (deadline : Nat) :
    Nat → β → Timeline → Option α × β × Timeline
  | 0, task, t => (none, task, t.moveTo deadline)
  | fuel + 1, task, t =>
    match poll task t with
    | (.ready v, task, t) => (some v, task, t)
    | (.waiting w, task, t) =>
      match t.wakeTime? w with
      | some time =>
        if time ≤ deadline then waitFor poll deadline fuel task (t.moveTo time)
        else (none, task, t.moveTo deadline)
      | none => (none, task, t.moveTo deadline)

end GraphQLClient
