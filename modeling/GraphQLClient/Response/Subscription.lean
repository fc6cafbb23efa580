import GraphQLClient.Json.Decode
import GraphQLClient.Response.EventStream

/-!
Subscriptions: a stream of payloads decoded as results. Its handle closes it: once the handle has
fired nothing but the end comes, and the payloads are let go. They are let go too when they have
ended and behind the first failure. Dropping a subscription closes it, if it has been confirmed.
-/

namespace GraphQLClient

/-- A subscription to results of type `ρ` over some source of payloads. -/
structure Subscription (ε ρ : Type) where
  /-- The payloads, until they are let go. -/
  events : Option ε
  handle : Handle
  decode : Json.Decoder ρ
  closeOnDrop : Bool := true

namespace Subscription

variable {ε ρ : Type}

/-- A subscription that a failed attempt may drop without closing it. -/
def provisional (events : ε) (handle : Handle) (decode : Json.Decoder ρ) : Subscription ε ρ :=
  { events := some events, handle, decode, closeOnDrop := false }

/-- Hands the subscription to the caller; dropping it closes it from now on. -/
def confirm (s : Subscription ε ρ) : Subscription ε ρ := { s with closeOnDrop := true }

def isClosed (s : Subscription ε ρ) (t : Timeline) : Bool := t.isFired s.handle

/-- Fires a subscription's handle; the first time is worth a notice. -/
def closeHandle (h : Handle) (t : Timeline) : Timeline :=
  match t.fire h with
  | (true, t) => t.report [.subscriptionClosed]
  | (false, t) => t

def close (s : Subscription ε ρ) (t : Timeline) : Timeline := closeHandle s.handle t

def drop (s : Subscription ε ρ) (t : Timeline) : Timeline :=
  if s.closeOnDrop then s.close t else t

/-- Closing as a piece of work. -/
def closing {σ : Type} (s : Subscription ε ρ) : Future σ Unit :=
  .fire s.handle fun first =>
    if first then .report .subscriptionClosed (.done ()) else .done ()

def decodeItem (decode : Json.Decoder ρ) : Item → Except Failure ρ
  | .error f => .error f
  | .ok data => (decode data).mapError fun m => .validation (.event m)

/-- The next result over a source that `pollEvents` goes on with. -/
def poll (pollEvents : ε → Timeline → Poll (Option Item) × ε × Timeline) (s : Subscription ε ρ)
    (t : Timeline) : Poll (Option (Except Failure ρ)) × Subscription ε ρ × Timeline :=
  if s.isClosed t then (.ready none, { s with events := none }, t)
  else
    match s.events with
    | none => (.ready none, s, t)
    | some events =>
      match pollEvents events t with
      | (.waiting w, events, t) => (.waiting w, { s with events := some events }, t)
      | (.ready none, _, t) => (.ready none, { s with events := none }, t)
      | (.ready (some item), events, t) =>
        if s.isClosed t then (.ready none, { s with events := none }, t)
        else
          match decodeItem s.decode item with
          | .ok v => (.ready (some (.ok v)), { s with events := some events }, t)
          | .error f => (.ready (some (.error f)), { s with events := none }, t)

def debugText (s : Subscription ε ρ) (t : Timeline) : String :=
  recordText "SubscriptionStream" [("closed", Json.boolText (s.isClosed t)),
    ("finished", Json.boolText s.events.isNone)]

end Subscription

namespace EventStream

/-- The next item, if it comes within `limit` milliseconds. -/
def next (limit : Nat) (s : EventStream) (t : Timeline) :
    Option (Option Item) × EventStream × Timeline :=
  Timeline.waitFor poll (t.now + limit) s.pollsToNext s t

end EventStream

/-- The next result over server-sent events, if it comes within `limit` milliseconds. -/
def Subscription.next {ρ : Type} (limit : Nat) (s : Subscription EventStream ρ) (t : Timeline) :
    Option (Option (Except Failure ρ)) × Subscription EventStream ρ × Timeline :=
  Timeline.waitFor (poll EventStream.poll) (t.now + limit)
    ((s.events.map (·.pollsToNext)).getD 1) s t

end GraphQLClient
