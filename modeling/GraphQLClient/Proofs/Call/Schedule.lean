import GraphQLClient.Proofs.Call.Attempts

/-! # The schedule of an attempt

The stages of an attempt and what the executor does between them are tasks, in an
order that the lists of stages tell (`schedule`). An attempt takes them up
one after another, each with what the one before it gave back, and ends with the
first that gives nothing back (`Scheduled`). Of the operation the stages may
change all but the kind: behind the comparison of the kinds every task is given an
operation of the caller's kind, whatever it was in between (`calls_scheduled`). -/

namespace GraphQLClient

variable {κ σ ρ α β γ ι : Type}

namespace Executor

/-- What one task hands to the next: what is worked on, and what further stages are to be told. -/
inductive Parcel (α : Type) where
  | operation (request : OperationRequest)
  | outgoing (operation : OperationRequest) (request : HttpRequest)
  | incoming (operation : OperationRequest) (request : HttpRequest) (response : HttpResponse)
  | decoded (operation : OperationRequest) (request : HttpRequest) (head : ResponseHead)
      (result : α)

inductive Task (κ σ α : Type) where
  | prepare (stage : Stage (AttemptInfo κ) σ OperationRequest)
  | compare
  | encode
  | amend (stage : Stage (EncodedInfo κ) σ HttpRequest)
  | send
  | receive (stage : Stage (AnsweredInfo κ) σ HttpResponse)
  | parse
  | conclude (stage : Stage (DecodedInfo κ) σ α)

/-- The tasks of an attempt, in order. -/
def schedule (stages : Stages κ σ α) : List (Task κ σ α) :=
  stages.beforeEncoding.map .prepare ++ .compare :: .encode ::
    (stages.afterEncoding.map .amend ++ .send ::
      (stages.beforeDecoding.map .receive ++ .parse :: stages.afterDecoding.map .conclude))

/-- Sending, with the steps of an attempt that it shows. -/
def dispatch (e : Executor κ σ ρ) (n : UInt32) (request : HttpRequest) : Run σ HttpResponse := do
  Run.record (.entered n .sending)
  let response ← send e.transport n request
  Run.record (.entered n .parsing)
  return response

/-- What is done in a task. A parcel of another kind is not for it. -/
def Task.work (e : Executor κ σ ρ) (parse : Operation → HttpResponse → Run σ α)
    (info : AttemptInfo κ) (base : OperationRequest) :
    Task κ σ α → Parcel α → Run σ (Parcel α)
  | .prepare stage, .operation request => do
    return .operation (← Run.awaitOk (stage info request))
  | .compare, .operation request =>
    if request.operation.kind = base.operation.kind then pure (.operation request)
    else .fail (.middleware (.kindChanged base.operation.kind request.operation.kind))
  | .encode, .operation request => do
    return .outgoing request (← Run.awaitOk (e.encoder request info.settings))
  | .amend stage, .outgoing operation request => do
    return .outgoing operation (← Run.awaitOk (stage { info with operation } request))
  | .send, .outgoing operation request => do
    let request := match info.cancellation with
      | some h => { request with cancellation := some h }
      | none => request
    return .incoming operation request (← e.dispatch info.attempt request)
  | .receive stage, .incoming operation request response => do
    return .incoming operation request
      (← Run.awaitOk (stage { info with operation, request } response))
  | .parse, .incoming operation request response => do
    return .decoded operation request response.head (← parse operation.operation response)
  | .conclude stage, .decoded operation request head result => do
    return .decoded operation request head
      (← Run.awaitOk (stage { info with operation, request, response := head } result))
  | _, p => pure p

/-! ## Going through tasks -/

/-- A task that was taken up: with what, and what came of it. -/
structure Deed (κ σ α : Type) where
  task : Task κ σ α
  given : Parcel α
  start : Session σ
  outcome : Outcome (Parcel α)
  finish : Session σ

section

variable (work : Task κ σ α → Parcel α → Run σ (Parcel α))

def runTasks : List (Task κ σ α) → Parcel α → Run σ (Parcel α)
  | [], p => pure p
  | task :: rest, p => (work task p).bind (runTasks rest)

/-- Tasks taken up in order, each with what the one before it gave back, until one gives nothing
back. -/
structure Trail (tasks : List (Task κ σ α)) (p : Parcel α) (s : Session σ)
    (r : Outcome (Parcel α) × Session σ) (deeds : List (Deed κ σ α)) : Prop where
  order : deeds.map (·.task) <+: tasks
  happened : ∀ d ∈ deeds, work d.task d.given d.start = (d.outcome, d.finish)
  begins : ∀ d ∈ deeds.head?, d.given = p ∧ d.start = s
  handsOn : deeds.IsChain fun d d' => d.outcome = .value d'.given ∧ d'.start = d.finish
  ends : r = (deeds.getLast?.elim (.value p) (·.outcome), deeds.getLast?.elim s (·.finish))
  complete : ∀ v, r.1 = .value v → deeds.map (·.task) = tasks

theorem Trail.exists_last {tasks : List (Task κ σ α)} {p : Parcel α} {s : Session σ}
    {r : Outcome (Parcel α) × Session σ} {deeds : List (Deed κ σ α)}
    (trail : Trail work tasks p s r deeds) (hne : tasks ≠ []) :
    ∃ d ∈ deeds.getLast?, r = (d.outcome, d.finish) := by
  have hends := trail.ends
  cases hlast : deeds.getLast? with
  | none =>
    rw [hlast] at hends
    obtain rfl := List.getLast?_eq_none_iff.1 hlast
    exact absurd (trail.complete p (by rw [hends]; rfl)).symm hne
  | some d => exact ⟨d, rfl, by rw [hends, hlast]; rfl⟩

/-- **Whatever the tasks do**, going through them leaves such a trail. -/
theorem runTasks_trail (tasks : List (Task κ σ α)) (p : Parcel α) (s : Session σ) :
    ∃ deeds, Trail work tasks p s (runTasks work tasks p s) deeds := by
  induction tasks generalizing p s with
  | nil => exact ⟨[], List.nil_prefix, by simp, by simp, .nil, rfl, fun _ _ => rfl⟩
  | cons task rest ih =>
    have hstop (o : Outcome (Parcel α)) (s' : Session σ) (hw : work task p s = (o, s'))
        (ho : ∀ v, o ≠ .value v) (hr : runTasks work (task :: rest) p s = (o, s')) :
        ∃ deeds, Trail work (task :: rest) p s (runTasks work (task :: rest) p s) deeds := by
      rw [hr]
      exact ⟨[⟨task, p, s, o, s'⟩], by simp, by simpa using hw, by simp, .singleton _, rfl,
        fun v hv => absurd hv (ho v)⟩
    rcases hw : work task p s with ⟨v | f | _ | _, s'⟩
    · obtain ⟨deeds, trail⟩ := ih v s'
      have hr : runTasks work (task :: rest) p s = runTasks work rest v s' :=
        Run.bind_of_value hw _
      rw [hr]
      refine ⟨⟨task, p, s, .value v, s'⟩ :: deeds, ?_, List.forall_mem_cons.2 ⟨hw, trail.happened⟩,
        by simp, ?_, ?_, fun v hv => ?_⟩
      · exact List.cons_prefix_cons.2 ⟨rfl, trail.order⟩
      · cases deeds with
        | nil => exact .singleton _
        | cons d deeds =>
          obtain ⟨hgiven, hstart⟩ := trail.begins d rfl
          exact .cons_cons ⟨by rw [hgiven], hstart⟩ trail.handsOn
      · rw [trail.ends]
        cases deeds <;> simp [List.getLast?_cons]
      · rw [List.map_cons, trail.complete v hv]
    all_goals exact hstop _ s' hw (by simp) (by simp [runTasks, Run.bind, hw])

end

/-! ## The tasks of an attempt -/

section

variable (work : Task κ σ α → Parcel α → Run σ (Parcel α))

theorem runTasks_append (tasks rest : List (Task κ σ α)) (p : Parcel α) :
    runTasks work (tasks ++ rest) p = (runTasks work tasks p).bind (runTasks work rest) := by
  induction tasks generalizing p with
  | nil => rfl
  | cons task tasks ih =>
    simp only [List.cons_append, runTasks, Run.bind_assoc]
    exact congrArg _ (funext ih)

/-- The stages of a phase are tasks on parcels of one form. -/
theorem runTasks_stages (info : ι) (mk : Stage ι σ β → Task κ σ α) (give : β → Parcel α)
    (hwork : ∀ stage v, work (mk stage) (give v) =
      (Run.awaitOk (stage info v)).bind fun v => pure (give v))
    (stages : List (Stage ι σ β)) (v : β) :
    runTasks work (stages.map mk) (give v) =
      (Stages.runAll info stages v).bind fun v => pure (give v) := by
  induction stages generalizing v with
  | nil => rfl
  | cons stage rest ih =>
    simp only [List.map_cons, runTasks, Stages.runAll, hwork, Run.bind_assoc]
    exact congrArg _ (funext ih)

end

section

variable (e : Executor κ σ ρ) (stages : Stages κ σ α)
  (parse : Operation → HttpResponse → Run σ α) (info : AttemptInfo κ) (base : OperationRequest)

/-- An attempt up to its result, which is read from the response by `parse`. -/
def settle : Run σ (Exchange × α) := do
  let x ← e.exchange stages info base
  let v ← parse x.operation.operation x.response
  let decoded : DecodedInfo κ :=
    { info with operation := x.operation, request := x.request, response := x.response.head }
  let v ← Stages.runAll decoded stages.afterDecoding v
  return (x, v)

/-- **An attempt goes through its schedule.** -/
theorem runTasks_schedule :
    ((Run.record (.entered info.attempt .serializing)).bind fun _ =>
      runTasks (Task.work e parse info base) (schedule stages) (.operation base)) =
    (e.settle stages parse info base).bind fun out =>
      pure (.decoded out.1.operation out.1.request out.1.response.head out.2) := by
  have hbind {α β : Type} (r : Run σ α) (f : α → Run σ β) : r >>= f = r.bind f := rfl
  have hpure {α β : Type} (v : α) (f : α → Run σ β) : (pure v : Run σ α).bind f = f v := rfl
  have hprepare := runTasks_stages (Task.work e parse info base) info .prepare .operation
    (fun _ _ => rfl) stages.beforeEncoding
  have hcompare (request : OperationRequest) :
      Task.work e parse info base (.compare : Task κ σ α) (.operation request) =
        (if request.operation.kind = base.operation.kind then pure request
          else Run.fail (.middleware
            (.kindChanged base.operation.kind request.operation.kind)) : Run σ _).bind
          fun request => pure (.operation request) := by
    simp only [Task.work]
    split_ifs <;> rfl
  have hamend (operation : OperationRequest) := runTasks_stages (Task.work e parse info base)
    { info with operation } .amend (.outgoing operation) (fun _ _ => rfl) stages.afterEncoding
  have hreceive (operation : OperationRequest) (request : HttpRequest) :=
    runTasks_stages (Task.work e parse info base) { info with operation, request } .receive
      (.incoming operation request) (fun _ _ => rfl) stages.beforeDecoding
  have hconclude (operation : OperationRequest) (request : HttpRequest) (head : ResponseHead) :=
    runTasks_stages (Task.work e parse info base)
      { info with operation, request, response := head } .conclude (.decoded operation request head)
      (fun _ _ => rfl) stages.afterDecoding
  simp only [schedule, settle, exchange, Stages.prepare, runTasks_append, runTasks, hbind,
    Run.bind_assoc, hpure, hprepare, hcompare]
  -- What is sent is the request under the handle of the attempt, if there is one.
  cases hc : info.cancellation <;>
    simp only [Task.work, dispatch, hc, runTasks_append, runTasks, hbind, Run.bind_assoc, hpure,
      hamend, hreceive, hconclude]

end

/-! ## What is handed on -/

/-- How far an attempt has come. -/
inductive Station where
  | drafted
  | approved
  | encoded
  | answered
  | decoded

/-- The station that a task starts from. -/
def Task.takes : Task κ σ α → Station
  | .prepare _ | .compare => .drafted
  | .encode => .approved
  | .amend _ | .send => .encoded
  | .receive _ | .parse => .answered
  | .conclude _ => .decoded

/-- The station that it comes to. -/
def Task.gives : Task κ σ α → Station
  | .prepare _ => .drafted
  | .compare => .approved
  | .encode | .amend _ => .encoded
  | .send | .receive _ => .answered
  | .parse | .conclude _ => .decoded

/-- The parcels of a station. From the approval on, their operation is of the kind given. -/
def Parcel.IsAt (kind : OperationKind) : Station → Parcel α → Prop
  | .drafted, .operation _ => True
  | .approved, .operation request => request.operation.kind = kind
  | .encoded, .outgoing op _ => op.operation.kind = kind
  | .answered, .incoming op _ _ => op.operation.kind = kind
  | .decoded, .decoded op _ _ _ => op.operation.kind = kind
  | _, _ => False

/-- In front of tasks that start from a station, stages that stay there. -/
theorem isChain_stages (mk : Stage ι σ β → Task κ σ α) {station : Station}
    (htakes : ∀ stage, (mk stage).takes = station) (hgives : ∀ stage, (mk stage).gives = station)
    (stages : List (Stage ι σ β)) {rest : List (Task κ σ α)}
    (hrest : rest.IsChain fun t t' => t.gives = t'.takes)
    (hhead : ∀ t ∈ rest.head?, t.takes = station) :
    (stages.map mk ++ rest).IsChain (fun t t' => t.gives = t'.takes) ∧
      ∀ t ∈ (stages.map mk ++ rest).head?, t.takes = station := by
  induction stages with
  | nil => exact ⟨hrest, hhead⟩
  | cons stage stages ih =>
    refine ⟨List.isChain_cons.2 ⟨fun t ht => ?_, ih.1⟩, ?_⟩
    · rw [hgives, ih.2 t ht]
    · simp [htakes]

/-- **Each task of the schedule starts where the one before it has come to**, the first one from
the draft. -/
theorem schedule_isChain (stages : Stages κ σ α) :
    (schedule stages).IsChain (fun t t' => t.gives = t'.takes) ∧
      ∀ t ∈ (schedule stages).head?, t.takes = .drafted := by
  have hcons {t : Task κ σ α} {rest : List (Task κ σ α)}
      (h : rest.IsChain (fun t t' => t.gives = t'.takes) ∧ ∀ t' ∈ rest.head?, t'.takes = t.gives) :
      (t :: rest).IsChain fun t t' => t.gives = t'.takes :=
    List.isChain_cons.2 ⟨fun t' ht => (h.2 t' ht).symm, h.1⟩
  have hconclude := isChain_stages (Task.conclude (κ := κ)) (fun _ => rfl) (fun _ => rfl)
    stages.afterDecoding .nil (by simp)
  rw [List.append_nil] at hconclude
  have hreceive := isChain_stages .receive (fun _ => rfl) (fun _ => rfl) stages.beforeDecoding
    (hcons (t := .parse) hconclude) (by simp [Task.takes])
  have hamend := isChain_stages .amend (fun _ => rfl) (fun _ => rfl) stages.afterEncoding
    (hcons (t := .send) hreceive) (by simp [Task.takes])
  have hencode := hcons (t := .encode) hamend
  exact isChain_stages .prepare (fun _ => rfl) (fun _ => rfl) stages.beforeEncoding
    (hcons (t := .compare) ⟨hencode, by simp [Task.takes, Task.gives]⟩) (by simp [Task.takes])

section

variable {e : Executor κ σ ρ} {parse : Operation → HttpResponse → Run σ α} {info : AttemptInfo κ}
  {base : OperationRequest}

/-- **No task changes the kind of an operation that is approved**, and none approves another
kind. -/
theorem Task.isAt_gives {t : Task κ σ α} {p p' : Parcel α} {s s' : Session σ}
    (hp : p.IsAt base.operation.kind t.takes)
    (hw : t.work e parse info base p s = (.value p', s')) :
    p'.IsAt base.operation.kind t.gives := by
  have hbind {β : Type} {r : Run σ β} {give : β → Parcel α}
      (h : r.bind (fun v => pure (give v)) s = (.value p', s')) : ∃ v, p' = give v := by
    obtain ⟨v, s₁, -, hv⟩ := Run.bind_eq_value_iff.1 h
    cases hv
    exact ⟨v, rfl⟩
  cases t with
  | prepare stage =>
    cases p with
    | operation request => obtain ⟨v, rfl⟩ := hbind hw; trivial
    | _ => exact hp.elim
  | compare =>
    cases p with
    | operation request =>
      simp only [Task.work] at hw
      split_ifs at hw with hkind
      · cases hw; exact hkind
      · cases hw
    | _ => exact hp.elim
  | encode =>
    cases p with
    | operation request => obtain ⟨v, rfl⟩ := hbind hw; exact hp
    | _ => exact hp.elim
  | amend stage =>
    cases p with
    | outgoing operation request => obtain ⟨v, rfl⟩ := hbind hw; exact hp
    | _ => exact hp.elim
  | send =>
    cases p with
    | outgoing operation request => obtain ⟨v, rfl⟩ := hbind hw; exact hp
    | _ => exact hp.elim
  | receive stage =>
    cases p with
    | incoming operation request response => obtain ⟨v, rfl⟩ := hbind hw; exact hp
    | _ => exact hp.elim
  | parse =>
    cases p with
    | incoming operation request response => obtain ⟨v, rfl⟩ := hbind hw; exact hp
    | _ => exact hp.elim
  | conclude stage =>
    cases p with
    | decoded operation request head result => obtain ⟨v, rfl⟩ := hbind hw; exact hp
    | _ => exact hp.elim

theorem Task.eq_encode {t : Task κ σ α} (h : t.takes = .approved) : t = .encode := by
  cases t <;> first | rfl | cases h

variable (e parse info) in
/-- The comparison gives back the operation as it is, or fails. -/
theorem Task.work_compare {p : Parcel α} (hp : p.IsAt base.operation.kind (.drafted))
    (s : Session σ) :
    ∃ request, p = .operation request ∧
      Task.work e parse info base (.compare : Task κ σ α) p s =
        (if request.operation.kind = base.operation.kind then .value p
        else .failure (.middleware
          (.kindChanged base.operation.kind request.operation.kind)), s) := by
  cases p with
  | operation request =>
    refine ⟨request, rfl, ?_⟩
    simp only [Task.work]
    split_ifs <;> rfl
  | _ => exact hp.elim

namespace Trail

variable {tasks : List (Task κ σ α)} {s : Session σ} {r : Outcome (Parcel α) × Session σ}
  {deeds : List (Deed κ σ α)} {d : Deed κ σ α}
  (trail : Trail (Task.work e parse info base) tasks (.operation base) s r deeds)
  (hchain : tasks.IsChain fun t t' => t.gives = t'.takes)

include trail hchain

theorem gives_eq_takes (i : ℕ) (h : i + 1 < deeds.length) :
    deeds[i].task.gives = deeds[i + 1].task.takes := by
  obtain ⟨rest, hrest⟩ := trail.order
  have hsteps := (hrest ▸ hchain).left_of_append
  exact List.isChain_iff_getElem.1 (List.isChain_map _ |>.1 hsteps) i h

/-- Behind every deed but the last there is another, of a task that starts where this one has come
to. -/
theorem last_or_next (hd : d ∈ deeds) :
    deeds.getLast? = some d ∨ ∃ d' ∈ deeds, d.outcome = .value d'.given ∧ d'.start = d.finish ∧
      d.task.gives = d'.task.takes := by
  obtain ⟨i, h, rfl⟩ := List.getElem_of_mem hd
  rcases Nat.lt_or_ge (i + 1) deeds.length with hlt | hge
  · obtain ⟨houtcome, hstart⟩ := List.isChain_iff_getElem.1 trail.handsOn i hlt
    exact .inr ⟨_, List.getElem_mem hlt, houtcome, hstart, trail.gives_eq_takes hchain i hlt⟩
  · obtain rfl : i = deeds.length - 1 := by omega
    exact .inl (by rw [List.getLast?_eq_getElem?, List.getElem?_eq_getElem h])

/-- What each task was given belongs to where the task starts. -/
theorem isAt (hhead : ∀ t ∈ tasks.head?, t.takes = .drafted) (hd : d ∈ deeds) :
    d.given.IsAt base.operation.kind d.task.takes := by
  have hat (i : ℕ) (h : i < deeds.length) :
      deeds[i].given.IsAt base.operation.kind deeds[i].task.takes := by
    -- On the position: what a task gives back is at the station that the next one starts from.
    induction i with
    | zero =>
      obtain ⟨rest, hrest⟩ := trail.order
      obtain ⟨d, deeds, rfl⟩ := List.exists_cons_of_length_pos h
      obtain ⟨hgiven, -⟩ := trail.begins d rfl
      rw [List.getElem_cons_zero, hgiven, hhead d.task (by simp [← hrest])]
      trivial
    | succ i ih =>
      obtain ⟨houtcome, -⟩ := List.isChain_iff_getElem.1 trail.handsOn i h
      have hw := trail.happened deeds[i] (List.getElem_mem _)
      rw [houtcome] at hw
      rw [← trail.gives_eq_takes hchain i h]
      exact Task.isAt_gives (ih _) hw
  obtain ⟨i, h, rfl⟩ := List.getElem_of_mem hd
  exact hat i h

/-- **What comes of the comparison**: the operation goes on to be encoded, or the trail ends. -/
theorem compared (hhead : ∀ t ∈ tasks.head?, t.takes = .drafted) (hd : d ∈ deeds)
    (hc : d.task = .compare) :
    ∃ request, d.given = .operation request ∧ d.finish = d.start ∧
      if request.operation.kind = base.operation.kind then
        d.outcome = .value d.given ∧ (deeds.getLast? = some d ∨
          ∃ d' ∈ deeds, d'.task = .encode ∧ d'.given = .operation request ∧ d'.start = d.start)
      else d.outcome = .failure (.middleware
        (.kindChanged base.operation.kind request.operation.kind)) ∧ deeds.getLast? = some d := by
  have hat := trail.isAt hchain hhead hd
  have hw := trail.happened d hd
  rw [hc] at hat hw
  obtain ⟨request, hgiven, hwork⟩ := Task.work_compare e parse info hat d.start
  rw [hw] at hwork
  obtain ⟨houtcome, hfinish⟩ := Prod.mk.inj hwork
  refine ⟨request, hgiven, hfinish, ?_⟩
  have hnext := trail.last_or_next hchain hd
  rw [houtcome, hc, hfinish] at hnext
  split_ifs at houtcome hnext ⊢ with hkind
  · refine ⟨houtcome, hnext.imp_right fun ⟨d', hd', hvalue, hstart, htakes⟩ => ?_⟩
    have hgiven' : d'.given = d.given := (Outcome.value.inj hvalue).symm
    exact ⟨d', hd', Task.eq_encode htakes.symm, hgiven'.trans hgiven, hstart⟩
  · exact ⟨houtcome, hnext.resolve_right fun ⟨d', _, hvalue, _⟩ => by cases hvalue⟩

end Trail

/-- What comes of an attempt whose last deed has some outcome. -/
inductive Brings (yield : α → β) : Outcome (Parcel α) → Outcome (Completed β) → Prop
  | value (op : OperationRequest) (request : HttpRequest) (head : ResponseHead) (v : α) :
      Brings yield (.value (.decoded op request head v)) (.value ⟨yield v, head⟩)
  | failure (f : Failure) : Brings yield (.failure f) (.failure f)
  | stalled : Brings yield .stalled .stalled

theorem Brings.eq_failure {yield : α → β} {f : Failure} {o : Outcome (Completed β)}
    (h : Brings yield (.failure f) o) : o = .failure f := by
  cases h
  rfl

theorem Brings.exists_value {yield : α → β} {o : Outcome (Parcel α)} {v : Completed β}
    (h : Brings yield o (.value v)) : ∃ p, o = .value p := by
  cases h
  exact ⟨_, rfl⟩

theorem Brings.of_bind {yield : α → β} {out : Run σ γ} {give : γ → Parcel α}
    {result : γ → Completed β} (h : ∀ v, Brings yield (.value (give v)) (.value (result v)))
    {s : Session σ} (ho : (out.bind (fun v => pure (result v)) s).1 ≠ .outOfAttempts) :
    Brings yield (out.bind (fun v => pure (give v)) s).1 (out.bind (fun v => pure (result v)) s).1 ∧
      (out.bind (fun v => pure (result v)) s).2 = (out.bind (fun v => pure (give v)) s).2 := by
  unfold Run.bind at ho ⊢
  rcases hs : out s with ⟨v | f | _ | _, s'⟩
  all_goals rw [hs] at ho
  · exact ⟨h v, rfl⟩
  · exact ⟨.failure f, rfl⟩
  · exact ⟨.stalled, rfl⟩
  · exact absurd rfl ho

variable (e parse info base) in
/-- **An attempt as it goes through its schedule**: its deeds, and no others. -/
structure Scheduled (stages : Stages κ σ α) (yield : α → β) (s : Session σ)
    (r : Outcome (Completed β) × Session σ) (deeds : List (Deed κ σ α)) : Prop where
  order : deeds.map (·.task) <+: schedule stages
  happened : ∀ d ∈ deeds, d.task.work e parse info base d.given d.start = (d.outcome, d.finish)
  begins : ∃ d ∈ deeds.head?, d.given = .operation base ∧
    d.start = s.record (.entered info.attempt .serializing)
  handsOn : deeds.IsChain fun d d' => d.outcome = .value d'.given ∧ d'.start = d.finish
  /-- From the approval on, tasks are given operations of the kind of `base`. -/
  kept : ∀ d ∈ deeds, d.given.IsAt base.operation.kind d.task.takes
  /-- Where the kind is that of `base` the operation is encoded, and otherwise the attempt fails. -/
  compared : ∀ d ∈ deeds, d.task = .compare → ∃ request, d.given = .operation request ∧
    if request.operation.kind = base.operation.kind then
      ∃ d' ∈ deeds, d'.task = .encode ∧ d'.given = .operation request ∧ d'.start = d.start
    else deeds.getLast? = some d ∧ r = (.failure (.middleware
      (.kindChanged base.operation.kind request.operation.kind)), d.start)
  ends : ∃ d ∈ deeds.getLast?, Brings yield d.outcome r.1 ∧ r.2 = d.finish
  complete : ∀ v, r.1 = .value v → deeds.map (·.task) = schedule stages

variable (e parse info base) in
theorem exists_scheduled (stages : Stages κ σ α) (yield : α → β) {s : Session σ}
    {r : Outcome (Completed β) × Session σ}
    (hr : (e.settle stages parse info base).bind
      (fun out => pure ⟨yield out.2, out.1.response.head⟩) s = r) (ho : r.1 ≠ .outOfAttempts) :
    ∃ deeds, Scheduled e parse info base stages yield s r deeds := by
  have hrun : runTasks (Task.work e parse info base) (schedule stages) (.operation base)
      (s.record (.entered info.attempt .serializing)) =
      (e.settle stages parse info base).bind (fun out =>
        pure (.decoded out.1.operation out.1.request out.1.response.head out.2)) s :=
    congrFun (e.runTasks_schedule stages parse info base) s
  obtain ⟨deeds, trail⟩ := runTasks_trail (Task.work e parse info base) (schedule stages)
    (.operation base) (s.record (.entered info.attempt .serializing))
  rw [hrun] at trail
  obtain ⟨hchain, hhead⟩ := schedule_isChain stages
  obtain ⟨last, hlast, hends⟩ := trail.exists_last _ (by simp [schedule])
  have hcomplete := trail.complete
  subst hr
  -- The trail and the attempt are the same run up to what is made of its result.
  obtain ⟨hbrings, hsession⟩ := Brings.of_bind (fun _ => .value _ _ _ _) ho
  rw [hends] at hbrings hsession hcomplete
  refine ⟨deeds, trail.order, trail.happened, ?_, trail.handsOn,
    fun d hd => trail.isAt hchain hhead hd, fun d hd hc => ?_, ⟨last, hlast, hbrings, hsession⟩, ?_⟩
  · obtain ⟨first, rest, rfl⟩ := List.exists_cons_of_ne_nil (l := deeds)
      (by rintro rfl; cases hlast)
    exact ⟨first, rfl, trail.begins first rfl⟩
  · obtain ⟨request, hgiven, hfinish, h⟩ := trail.compared hchain hhead hd hc
    refine ⟨request, hgiven, ?_⟩
    split_ifs at h ⊢ with hkind
    · -- An attempt does not end with an operation in hand.
      refine h.2.resolve_left fun hd => ?_
      obtain rfl : last = d := Option.some.inj (hlast.symm.trans hd)
      rw [h.1, hgiven] at hbrings
      cases hbrings
    · obtain rfl : last = d := Option.some.inj (hlast.symm.trans h.2)
      rw [h.1] at hbrings
      exact ⟨h.2, Prod.ext hbrings.eq_failure (hsession.trans hfinish)⟩
  · intro v hv
    rw [hv] at hbrings
    obtain ⟨p, hp⟩ := hbrings.exists_value
    exact hcomplete p hp

end

/-! ## Calls -/

section

variable (e : Executor κ σ ρ) (decode : Json.Decoder ρ) (handle : Handle)

def parseValue (op : Operation) (response : HttpResponse) : Run σ ρ := do
  let data ← Run.awaitOk (response.payload e.handler op)
  Run.ofExcept ((decode data).mapError fun m => .validation (.result op.name m))

def parseStream (op : Operation) (response : HttpResponse) :
    Run σ (Subscription EventStream ρ) := do
  let events ← Run.awaitOk (response.events e.handler op handle)
  return .provisional events handle decode

variable (info : AttemptInfo κ) (base : OperationRequest)

theorem attempt_eq_settle :
    e.attempt decode info base = (e.settle e.stages (e.parseValue decode) info base).bind
      fun out => pure ⟨out.2, out.1.response.head⟩ := by
  have hbind {α β : Type} (r : Run σ α) (f : α → Run σ β) : r >>= f = r.bind f := rfl
  rw [attempt_eq]
  simp only [settle, parseValue, hbind, Run.bind_assoc]
  refine congrArg _ (funext fun x => ?_)
  simp only [decodeValue, conclude, hbind]
  rfl

theorem attemptSubscription_eq_settle :
    e.attemptSubscription decode handle info base =
      (e.settle e.subscriptionStages (e.parseStream decode handle) info base).bind
        fun out => pure ⟨out.2.confirm, out.1.response.head⟩ := by
  have hbind {α β : Type} (r : Run σ α) (f : α → Run σ β) : r >>= f = r.bind f := rfl
  rw [attemptSubscription_eq]
  simp only [settle, parseStream, hbind, Run.bind_assoc]
  refine congrArg _ (funext fun x => ?_)
  simp only [openStream, conclude, hbind, Run.bind_assoc]
  rfl

end

/-- **Every attempt of a call goes through its schedule**, and all of them from the operation that
the caller gave: no request goes out for an operation of another kind. -/
theorem calls_scheduled (e : Executor κ σ ρ) (fuel : Nat) (op : Operation) (decode : Json.Decoder ρ)
    (inputs : Data) (settings : CallSettings) (handle : Handle) (s : Session σ) :
    match inputs.encode with
    | .error fault =>
      e.execute fuel op decode inputs settings s =
          (.failure (.serialization (.encoding fault)), s) ∧
        e.subscribe fuel op decode inputs settings handle s =
          (.failure (.serialization (.encoding fault)), s)
    | .ok v =>
      (∃ tries, History e.retry ⟨e.client, ⟨op, v⟩, settings⟩
          (fun n => e.attempt decode ⟨e.client, settings, n, settings.cancellation⟩ ⟨op, v⟩)
          1 fuel s (e.execute fuel op decode inputs settings s) tries ∧
        ∀ a ∈ tries, ∃ deeds, Scheduled e (e.parseValue decode)
          ⟨e.client, settings, a.number, settings.cancellation⟩ ⟨op, v⟩ e.stages id
          (a.start.record (.started op a.number)) (a.outcome, a.finish) deeds) ∧
      ∃ tries, History e.subscriptionRetry ⟨e.client, ⟨op, v⟩, settings⟩
          (fun n =>
            e.attemptSubscription decode handle ⟨e.client, settings, n, some handle⟩ ⟨op, v⟩)
          1 fuel s (e.subscribe fuel op decode inputs settings handle s) tries ∧
        ∀ a ∈ tries, ∃ deeds, Scheduled e (e.parseStream decode handle)
          ⟨e.client, settings, a.number, some handle⟩ ⟨op, v⟩ e.subscriptionStages
          Subscription.confirm (a.start.record (.started op a.number)) (a.outcome, a.finish)
          deeds := by
  rw [execute_eq_attempts, subscribe_eq_attempts]
  cases inputs.encode with
  | error fault => exact ⟨rfl, rfl⟩
  | ok v =>
    have hrun (n : UInt32) := local_attempt e decode
      ⟨e.client, settings, n, settings.cancellation⟩ ⟨op, v⟩
    have hrun' (n : UInt32) := local_attemptSubscription e decode handle
      ⟨e.client, settings, n, some handle⟩ ⟨op, v⟩
    obtain ⟨tries, hist⟩ : ∃ tries, History e.retry ⟨e.client, ⟨op, v⟩, settings⟩ _ 1 fuel s _
      tries := attempts_history hrun fuel 1 s
    obtain ⟨tries', hist'⟩ : ∃ tries, History e.subscriptionRetry ⟨e.client, ⟨op, v⟩, settings⟩ _ 1
      fuel s _ tries := attempts_history hrun' fuel 1 s
    refine ⟨⟨tries, hist, fun a ha => ?_⟩, tries', hist', fun a ha => ?_⟩
    · have hran := (hist.happened a ha).ran
      have ho := (hrun a.number (a.start.record (.started op a.number))).1
      rw [hran] at ho
      rw [attempt_eq_settle] at hran
      exact exists_scheduled e _ _ _ e.stages id hran ho
    · have hran := (hist'.happened a ha).ran
      have ho := (hrun' a.number (a.start.record (.started op a.number))).1
      rw [hran] at ho
      rw [attemptSubscription_eq_settle] at hran
      exact exists_scheduled e _ _ _ e.subscriptionStages Subscription.confirm hran ho

end Executor

end GraphQLClient
