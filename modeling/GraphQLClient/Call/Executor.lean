import GraphQLClient.Call.Stages
import GraphQLClient.Request.Strategy
import GraphQLClient.Response.Subscription
import GraphQLClient.Retry.Policy

/-!
Calls. An attempt encodes the operation, sends the request, decodes the answer, and runs the
middleware stages between these; a failed attempt is put to the retry policy, and each further one
starts from the operation and variables as they were given. Where a request carries a cancellation
handle, the transport's work is given up once the handle has fired.
-/

namespace GraphQLClient

/-- Calling a transport may change its state at once; the answer takes its time. -/
abbrev Transport (σ : Type) := HttpRequest → σ → Future σ (Except Failure HttpResponse) × σ

/-- Encodes operations as requests. -/
abbrev Encoder (σ : Type) := OperationRequest → CallSettings → Future σ (Except Failure HttpRequest)

/-- What there is to report on a request that has been encoded. -/
def HttpRequest.notices (op : Operation) (r : HttpRequest) : List Notice :=
  match r.body with
  | .json _ => []
  | .multipart form => [.encodingMultipart op.name form.files.length]

/-- Encoding by one of the two forms of requests. -/
def Strategy.encoder {σ : Type} (s : Strategy) : Encoder σ := fun request settings =>
  match s.encode request settings with
  | .error cause => .done (.error (.serialization cause))
  | .ok wire =>
    (Future.reportAll (wire.notices request.operation)).bind fun _ => .done (.ok wire)

/-- All that calls have in common, for results of type `ρ` and clients that tell stages `κ`. -/
structure Executor (κ σ ρ : Type) where
  client : κ
  transport : Transport σ
  encoder : Encoder σ := Strategy.standard.encoder
  handler : ErrorHandler := ErrorHandler.raise
  stages : Stages κ σ ρ := {}
  subscriptionStages : Stages κ σ (Subscription EventStream ρ) := {}
  retry : RetryPolicy κ σ := RetryPolicy.never
  subscriptionRetry : RetryPolicy κ σ := RetryPolicy.never

/-- A result and the head of the response that brought it. -/
structure Completed (α : Type) where
  result : α
  response : ResponseHead

/-- What an attempt has brought back from the transport. -/
structure Exchange where
  operation : OperationRequest
  request : HttpRequest
  response : HttpResponse

namespace Executor

variable {κ σ ρ α : Type}

/-- Calls the transport and waits for its answer, or for the request's handle to fire. -/
def send (transport : Transport σ) (attempt : UInt32) (request : HttpRequest) :
    Run σ HttpResponse := fun s =>
  let s := { s with timeline := s.timeline.record (.invoked attempt request) }
  let (answer, state) := transport request s.state
  let s := { s with state }
  match request.cancellation with
  | none => Run.awaitOk answer s
  | some h =>
    (Run.await (answer.untilFired h)).bind
      (fun r =>
        match r with
        | none => .fail .cancelled
        | some r => .ofExcept r) s

/-- What attempts of both families have in common, up to the stages before decoding. -/
def exchange (e : Executor κ σ ρ) (stages : Stages κ σ α) (info : AttemptInfo κ)
    (base : OperationRequest) : Run σ Exchange := do
  Run.record (.entered info.attempt .serializing)
  let operation ← stages.prepare info base
  let request ← Run.awaitOk (e.encoder operation info.settings)
  let encoded : EncodedInfo κ := { info with operation }
  let request ← Stages.runAll encoded stages.afterEncoding request
  let request :=
    match info.cancellation with
    | some h => { request with cancellation := some h }
    | none => request
  Run.record (.entered info.attempt .sending)
  let response ← send e.transport info.attempt request
  Run.record (.entered info.attempt .parsing)
  let answered : AnsweredInfo κ := { encoded with request }
  let response ← Stages.runAll answered stages.beforeDecoding response
  return { operation, request, response }

/-- The stages behind decoding. -/
def conclude (stages : Stages κ σ α) (info : AttemptInfo κ) (x : Exchange) (result : α) :
    Run σ (Completed α) := do
  let head := x.response.head
  let decoded : DecodedInfo κ :=
    { info with operation := x.operation, request := x.request, response := head }
  let result ← Stages.runAll decoded stages.afterDecoding result
  return { result, response := head }

/-- One attempt at a query or mutation. -/
def attempt (e : Executor κ σ ρ) (decode : Json.Decoder ρ) (info : AttemptInfo κ)
    (base : OperationRequest) : Run σ (Completed ρ) := do
  let x ← e.exchange e.stages info base
  let data ← Run.awaitOk (x.response.payload e.handler x.operation.operation)
  let result ← Run.ofExcept
    ((decode data).mapError fun m => .validation (.result x.operation.operation.name m))
  conclude e.stages info x result

/-- One attempt at a subscription with its handle. A stage that fails drops the stream it was
given. -/
def attemptSubscription (e : Executor κ σ ρ) (decode : Json.Decoder ρ) (handle : Handle)
    (info : AttemptInfo κ) (base : OperationRequest) :
    Run σ (Completed (Subscription EventStream ρ)) := do
  let x ← e.exchange e.subscriptionStages info base
  let events ← Run.awaitOk (x.response.events e.handler x.operation.operation handle)
  let stream : Subscription EventStream ρ := .provisional events handle decode
  let done ← (conclude e.subscriptionStages info x stream).onFailure fun s =>
    { s with timeline := stream.drop s.timeline }
  return { done with result := done.result.confirm }

/--
Attempts one after another, from the one with the number given, until one succeeds, fails for good,
or the policy declines; at most `fuel` of them. The counter is a word and starts over behind its
largest value.
-/
def attempts (policy : RetryPolicy κ σ) (info : CallInfo κ) (run : UInt32 → Run σ α) :
    (fuel : Nat) → UInt32 → Run σ α
  | 0, _ => fun s => (.outOfAttempts, s)
  | fuel + 1, n => fun s =>
    let op := info.request.operation
    let begun := { s with timeline := s.timeline.record (.started op n) }
    match run n begun with
    | (.value v, s) => (.value v, { s with timeline := s.timeline.record (.succeeded op n) })
    | (.failure f, s) =>
      let s := { s with timeline := s.timeline.record (.failed op n f) }
      if f.isFinal then (.failure f, s)
      else
        let s := { s with timeline := s.timeline.record (.consulted info.request n f) }
        (Run.await (policy info n f)).bind
          (fun again => if again then attempts policy info run fuel (n + 1) else .fail f) s
    | (.stalled, s) => (.stalled, s)
    | (.outOfAttempts, s) => (.outOfAttempts, s)

/-- The request that all attempts start from. Variables without an encoding end the call here. -/
def encodeVariables (op : Operation) (inputs : Data) : Run σ OperationRequest :=
  match inputs.toVariables with
  | .error failure => .fail failure
  | .ok v => pure { operation := op, inputs := v }

/-- Executes a query or mutation in at most `fuel` attempts. -/
def execute (e : Executor κ σ ρ) (fuel : Nat) (op : Operation) (decode : Json.Decoder ρ)
    (inputs : Data) (settings : CallSettings) : Run σ (Completed ρ) := do
  let base ← encodeVariables op inputs
  attempts e.retry ⟨e.client, base, settings⟩
    (fun n => e.attempt decode ⟨e.client, settings, n, settings.cancellation⟩ base) fuel 1

/-- Executes a subscription, which the handle closes, in at most `fuel` attempts. -/
def subscribe (e : Executor κ σ ρ) (fuel : Nat) (op : Operation) (decode : Json.Decoder ρ)
    (inputs : Data) (settings : CallSettings) (handle : Handle) :
    Run σ (Completed (Subscription EventStream ρ)) := do
  let base ← encodeVariables op inputs
  attempts e.subscriptionRetry ⟨e.client, base, settings⟩
    (fun n =>
      e.attemptSubscription decode handle ⟨e.client, settings, n, some handle⟩ base) fuel 1

/-- The result of a call of either family. -/
inductive Execution (ρ : Type) where
  | value (completed : Completed ρ)
  | stream (completed : Completed (Subscription EventStream ρ))

/-- The handle given, or a new one. -/
def handleOrNew : Option Handle → Run σ Handle
  | some h => pure h
  | none => Run.await (.newHandle .done)

/-- Executes an operation of either family; a subscription without a handle gets a new one. -/
def perform (e : Executor κ σ ρ) (fuel : Nat) (op : Operation) (decode : Json.Decoder ρ)
    (inputs : Data) (settings : CallSettings) (handle : Option Handle) :
    Run σ (Execution ρ) :=
  if op.kind.isSubscription then do
    let handle ← handleOrNew handle
    let c ← e.subscribe fuel op decode inputs settings handle
    return .stream c
  else do
    let c ← e.execute fuel op decode inputs settings
    return .value c

def debugText (e : Executor κ σ ρ) : String :=
  "Executor \x7b sync_middlewares: " ++ e.stages.debugText ++ ", subscription_middlewares: " ++
    e.subscriptionStages.debugText ++ ", .. \x7d"

end Executor

end GraphQLClient
