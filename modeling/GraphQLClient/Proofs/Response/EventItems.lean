import GraphQLClient.Proofs.Response.Lines
import GraphQLClient.Proofs.Timeline

/-! # The items of an event stream, however its body is cut

`bodyItems` reads a body as a whole: the items of its lines up to the first
failure. `Drains` is what polling a stream to its end hands over, whatever
time passes between two polls. The invariant (`Reading`) is that the part of
the body read so far has been cut at its line feeds; the items still to come
(`toCome`) are then those of the lines not consumed, of the unfinished one and
of the pieces not yet arrived, taken together, and each poll gives the first
of them (`poll_gives`). -/

namespace GraphQLClient

/-- Arrivals up to the first fault: their bytes, and the fault if there is one. -/
def Arrival.received : List Arrival → Bytes × Option Failure
  | [] => ([], none)
  | .data b :: rest => (b ++ (received rest).1, (received rest).2)
  | .fault f :: _ => ([], some f)
  | .firing _ :: rest => received rest
  | .delay _ :: rest => received rest
  | .due _ :: rest => received rest

/-- A body that comes to its end or to a fault. -/
def Arrivals.Ends (a : Arrivals) : Prop := a.staysOpen = false ∨ ∃ f, Arrival.fault f ∈ a.pending

/-- How often arrivals can still make a reader wait. -/
def Arrival.waits (now : Nat) : List Arrival → Nat
  | [] => 0
  | .delay _ :: rest => waits now rest + 2
  | .due time :: rest => if time ≤ now then waits now rest else waits now rest + 1
  | _ :: rest => waits now rest

theorem Arrival.waits_antitone {now later : Nat} (h : now ≤ later) (arrivals : List Arrival) :
    waits later arrivals ≤ waits now arrivals := by
  fun_induction waits now arrivals <;> simp only [waits] <;> (try split_ifs) <;> omega

namespace EventStream

/-! ## The items of a whole body -/

def upToFailure : List Item → List Item
  | [] => []
  | .ok data :: rest => .ok data :: upToFailure rest
  | .error f :: _ => [.error f]

/-- What a line brings whose text before the first colon is `data`: the rest,
trimmed, read as an envelope and put to the handler. -/
def lineItem? (handler : ErrorHandler) (op : Operation) (line : String) : Option Item :=
  if ':' ∈ line.toList ∧ line.toList.takeWhile (· ≠ ':') = "data".toList then
    let value := String.ofList ((line.toList.dropWhile (· ≠ ':')).drop 1)
    match Envelope.read (Text.Utf8.encode (Text.trim value)) with
    | .error fault => some (.error (.invalidBody (.event fault)))
    | .ok e => some (e.resolve handler op).1
  else none

/-- The items of a body that ends behind its bytes, or breaks off there. -/
def bodyItems (handler : ErrorHandler) (op : Operation) (body : Bytes) :
    Option Failure → List Item
  | none =>
    upToFailure ((terminatedLines body ++ unterminatedLine body).filterMap (lineItem? handler op))
  | some fault =>
    upToFailure ((terminatedLines body).filterMap (lineItem? handler op) ++ [.error fault])

/-! ## Draining -/

/-- The items that a stream hands over when it is polled to its end. Between
two polls the clock may go on and anything else may happen but the firing of
the stream's handle; a poll may also come too early. -/
inductive Drains : EventStream → Timeline → List Item → Prop
  | ended {s t s' t'} (h : s.poll t = (.ready none, s', t')) : Drains s t []
  | item {s t s' t' u item items} (h : s.poll t = (.ready (some item), s', t'))
      (later : t'.now ≤ u.now) (live : u.isFired s'.handle = false)
      (rest : Drains s' u items) : Drains s t (item :: items)
  | waiting {s t s' t' u w items} (h : s.poll t = (.waiting w, s', t'))
      (later : t'.now ≤ u.now) (live : u.isFired s'.handle = false)
      (rest : Drains s' u items) : Drains s t items

theorem readLine_item (handler : ErrorHandler) (op : Operation) (line : String) :
    (readLine handler op line).1 = lineItem? handler op line := by
  unfold readLine lineItem?
  rw [dataPayload?_eq]
  split_ifs
  · simp only [decode]
    cases Envelope.read _ <;> rfl
  · rfl

/-! ## What is still to come -/

section

variable (handler : ErrorHandler) (op : Operation)

/-- The items of complete lines. -/
def lineItems (lines : List Bytes) : List Item :=
  lines.filterMap fun line => lineItem? handler op (lineText line)

theorem lineItems_cons (line : Bytes) (rest : List Bytes) :
    lineItems handler op (line :: rest) =
      (lineItem? handler op (lineText line)).toList ++ lineItems handler op rest := by
  unfold lineItems
  rw [List.filterMap_cons]
  cases lineItem? handler op (lineText line) <;> rfl

theorem lineItems_append (a b : List Bytes) :
    lineItems handler op (a ++ b) = lineItems handler op a ++ lineItems handler op b :=
  List.filterMap_append

/-- The items of an unfinished line and the arrivals behind it. -/
def laterItems (tail : Bytes) (arrivals : List Arrival) : List Item :=
  let cut := cutLines (tail ++ (Arrival.received arrivals).1)
  lineItems handler op cut.1 ++
    match (Arrival.received arrivals).2 with
    | none => if cut.2 = [] then [] else (lineItem? handler op (lastLineText cut.2)).toList
    | some fault => [.error fault]

def itemsFrom (lines : Lines) (arrivals : List Arrival) : List Item :=
  lineItems handler op lines.complete ++ laterItems handler op lines.tail arrivals

theorem laterItems_data (tail b : Bytes) (rest : List Arrival) :
    laterItems handler op tail (.data b :: rest) =
      lineItems handler op (cutLines (tail ++ b)).1 ++
        laterItems handler op (cutLines (tail ++ b)).2 rest := by
  simp only [laterItems, Arrival.received, ← List.append_assoc, cutLines_append (tail ++ b),
    lineItems, List.filterMap_append]

/-- From the start, what is to come are the items of the whole body. -/
theorem upToFailure_itemsFrom_start (arrivals : List Arrival) :
    upToFailure (itemsFrom handler op {} arrivals) =
      bodyItems handler op (Arrival.received arrivals).1 (Arrival.received arrivals).2 := by
  unfold itemsFrom laterItems lineItems bodyItems
  simp only [List.nil_append, ← map_lineText_cutLines, unterminatedLine_eq, List.filterMap_append,
    List.filterMap_map, Function.comp_def, List.filterMap_nil]
  cases (Arrival.received arrivals).2 with
  | some f => rfl
  | none =>
    split_ifs
    · rfl
    · simp only [List.filterMap_cons, List.filterMap_nil]
      cases lineItem? handler op _ <;> rfl

theorem firstItem_spec (lines : List Bytes) :
    match firstItem handler op lines with
    | (some item, _, left) => ∃ read, lines = read ++ left ∧ lineItems handler op read = [item]
    | (none, _, _) => lineItems handler op lines = [] := by
  induction lines with
  | nil => rfl
  | cons line rest ih =>
    have hline := readLine_item handler op (lineText line)
    unfold firstItem
    rcases hl : readLine handler op (lineText line) with ⟨_ | item, notices⟩
    all_goals rw [hl] at hline
    · rcases hf : firstItem handler op rest with ⟨_ | item, more, left⟩
      all_goals rw [hf] at ih
      · rw [lineItems_cons, ← hline]
        exact ih
      · obtain ⟨read, rfl, hread⟩ := ih
        exact ⟨line :: read, rfl, by rw [lineItems_cons, ← hline, hread]; rfl⟩
    · exact ⟨[line], rfl, by rw [lineItems_cons, ← hline]; rfl⟩

end

/-- Lines are consumed without an item only if they bring none. -/
theorem lineItems_eq_nil {handler : ErrorHandler} {op : Operation} {lines left : List Bytes}
    {notices : List Notice} (h : firstItem handler op lines = (none, notices, left)) :
    lineItems handler op lines = [] := by
  have hl := firstItem_spec handler op lines
  rwa [h] at hl

/-- The items that a stream still has to give. -/
def toCome (s : EventStream) : List Item :=
  if s.ended then []
  else upToFailure (itemsFrom s.handler s.operation s.lines s.body.pending)

/-- What holds of a stream between two polls. -/
structure Reading (s : EventStream) : Prop where
  ends : s.ended = true ∨ s.body.Ends
  quiet : ∀ a ∈ s.body.pending, a ≠ .firing s.handle
  exhausted : s.bodyDone = true → s.body.pending = []
  uncut : cutLines s.lines.tail = ([], s.lines.tail)

def waits (s : EventStream) (now : Nat) : Nat := Arrival.waits now s.body.pending

/-- What a poll leaves as it was. -/
structure Kept (h : Handle) (now : Nat) (s : EventStream) (t : Timeline) : Prop where
  reading : Reading s
  handle : s.handle = h
  now : t.now = now
  live : t.isFired h = false

/-- A step gives the first of some items, or the end if there are none, or
has to wait for a time behind which fewer than `n` waits lie ahead. -/
def Gives (h : Handle) (now n : Nat) (items : List Item) : Step → Prop
  | (.ready none, _, _) => items = []
  | (.ready (some item), s, t) => items = item :: s.toCome ∧ Kept h now s t ∧ s.waits now ≤ n
  | (.waiting _, s, t) =>
    items = s.toCome ∧ Kept h now s t ∧ ∃ time, now ≤ time ∧ s.waits time < n

theorem Gives.mono {h : Handle} {now n m : Nat} {items : List Item} {step : Step} (hnm : n ≤ m)
    (hg : Gives h now n items step) : Gives h now m items step := by
  obtain ⟨(_ | item) | w, s, t⟩ := step
  · exact hg
  · obtain ⟨hi, hk, hn⟩ := hg
    exact ⟨hi, hk, hn.trans hnm⟩
  · obtain ⟨hi, hk, time, hle, hn⟩ := hg
    exact ⟨hi, hk, time, hle, hn.trans_le hnm⟩

variable {s : EventStream} {t : Timeline} {n : Nat}

theorem deliver_gives (hr : Reading s) (he : s.ended = false) (live : t.isFired s.handle = false)
    (hn : s.waits t.now ≤ n) (item : Item) :
    Gives s.handle t.now n
      (upToFailure (item :: itemsFrom s.handler s.operation s.lines s.body.pending))
      (s.deliver item t) := by
  cases item with
  | ok data => exact ⟨by simp [upToFailure, toCome, he], ⟨hr, rfl, rfl, live⟩, hn⟩
  | error f =>
    have hr' : Reading { s with ended := true } := ⟨.inl rfl, hr.quiet, hr.exhausted, hr.uncut⟩
    exact ⟨rfl, ⟨hr', rfl, rfl, live⟩, hn⟩

theorem drain_gives (hr : Reading s) (he : s.ended = false) (live : t.isFired s.handle = false)
    (hd : s.bodyDone = true) (hc : s.lines.complete = []) :
    Gives s.handle t.now n s.toCome (s.drain t) := by
  have hp := hr.exhausted hd
  have hcome : s.toCome = upToFailure (if s.lines.tail = [] then []
      else (lineItem? s.handler s.operation (lastLineText s.lines.tail)).toList) := by
    simp [toCome, he, itemsFrom, laterItems, hc, hp, Arrival.received, hr.uncut, lineItems]
  have hr' : Reading { s with lines := {} } := ⟨hr.ends, hr.quiet, hr.exhausted, rfl⟩
  unfold drain
  split_ifs with ht
  · rw [if_pos ht] at hcome
    exact hcome
  · rw [if_neg ht, ← readLine_item] at hcome
    rcases hl : readLine s.handler s.operation (lastLineText s.lines.tail) with ⟨_ | item, notices⟩
    · rw [hl] at hcome
      exact hcome
    · rw [hl] at hcome
      have hg := deliver_gives (n := n) (t := t.report notices) hr' he live
        (by simp [waits, hp, Arrival.waits]) item
      simpa [hcome, itemsFrom, laterItems, hp, Arrival.received, cutLines, lineItems] using hg

/-- Complete lines are consumed first. -/
theorem serve_gives (hr : Reading s) (he : s.ended = false) (live : t.isFired s.handle = false)
    {item : Item} {notices : List Notice} {left : List Bytes}
    (hf : firstItem s.handler s.operation s.lines.complete = (some item, notices, left)) :
    Gives s.handle t.now (s.waits t.now) s.toCome
      ({ s with lines := { s.lines with complete := left } }.deliver item (t.report notices)) := by
  have hl := firstItem_spec s.handler s.operation s.lines.complete
  rw [hf] at hl
  obtain ⟨read, hread, hitem⟩ := hl
  have hr' : Reading { s with lines := { s.lines with complete := left } } :=
    ⟨hr.ends, hr.quiet, hr.exhausted, hr.uncut⟩
  have hcome : s.toCome = upToFailure (item :: itemsFrom s.handler s.operation
      { s.lines with complete := left } s.body.pending) := by
    simp [toCome, he, itemsFrom, hread, lineItems_append, hitem]
  rw [hcome]
  exact deliver_gives (t := t.report notices) hr' he live (Nat.le_refl _) item

/-- Nothing arrives before some time: the stream waits for it, and then has
less to wait for. -/
theorem suspend_gives (hr : Reading s) (he : s.ended = false) (hd : s.bodyDone = false)
    (live : t.isFired s.handle = false) {time : Nat} (later : t.now ≤ time)
    (hn : s.waits t.now < n) :
    Gives s.handle t.now n
      (upToFailure (itemsFrom s.handler s.operation s.lines s.body.pending))
      ({ s with body := { s.body with pending := .due time :: s.body.pending } }.suspend
        (.upTo time) t) := by
  have hr' : Reading { s with body := { s.body with pending := .due time :: s.body.pending } } := by
    refine ⟨?_, ?_, by simp [hd], hr.uncut⟩
    · rcases hr.ends with h | h | ⟨f, hf⟩
      · exact .inl h
      · exact .inr (.inl h)
      · exact .inr (.inr ⟨f, List.mem_cons_of_mem _ hf⟩)
    · intro a ha
      rcases List.mem_cons.mp ha with rfl | ha
      · exact Arrival.noConfusion
      · exact hr.quiet a ha
  refine ⟨?_, ⟨hr', rfl, rfl, live⟩, time, later, ?_⟩
  · simp only [toCome, he]; rfl
  · calc Arrival.waits time (.due time :: s.body.pending)
        = Arrival.waits time s.body.pending := by simp [Arrival.waits]
      _ ≤ s.waits t.now := Arrival.waits_antitone later _
      _ < n := hn

/-- Reading on in the body. The recursion is that of `pull`, on the arrivals;
a piece is put behind the unfinished line, everything else leaves the lines
alone. -/
theorem pull_gives (arrivals : List Arrival) : ∀ {s : EventStream} {lines : Lines} {t : Timeline},
    Reading { s with body := { s.body with pending := arrivals }, lines } →
    s.ended = false → s.bodyDone = false → t.isFired s.handle = false → lines.complete = [] →
    Gives s.handle t.now (Arrival.waits t.now arrivals)
      (upToFailure (itemsFrom s.handler s.operation lines arrivals)) (s.pull arrivals lines t) := by
  induction arrivals with
  | nil =>
    intro s lines t hr he hd live hc
    have hopen : s.body.staysOpen = false := by
      rcases hr.ends with h | h | ⟨f, hf⟩
      · simp [he] at h
      · exact h
      · simp at hf
    unfold pull
    rw [if_neg (by simp [hopen]), if_neg (by simp [live])]
    have hr' : Reading { s with
        body := { s.body with pending := [] }, lines, bodyDone := true } :=
      ⟨hr.ends, hr.quiet, fun _ => rfl, hr.uncut⟩
    have hg := drain_gives (n := 0) hr' he live rfl hc
    rw [toCome, if_neg (by simp [he])] at hg
    exact hg
  | cons a rest ih =>
    intro s lines t hr he hd live hc
    have hquiet : ∀ a ∈ rest, a ≠ .firing s.handle := fun a ha =>
      hr.quiet a (List.mem_cons_of_mem _ ha)
    have hends : (∀ f, a ≠ .fault f) →
        s.ended = true ∨ { s.body with pending := rest }.Ends := by
      intro hf
      rcases hr.ends with h | h | ⟨f, hm⟩
      · exact .inl h
      · exact .inr (.inl h)
      · rcases List.mem_cons.mp hm with h | h
        · exact absurd h.symm (hf f)
        · exact .inr (.inr ⟨f, h⟩)
    cases a with
    | data b =>
      have hr' : Reading { s with
          body := { s.body with pending := rest }, lines := lines.push b } :=
        ⟨hends (by simp), hquiet, by simp [hd], cutLines_tail _⟩
      have hpush : lines.push b =
          ⟨(cutLines (lines.tail ++ b)).1, (cutLines (lines.tail ++ b)).2⟩ := by
        simp [Lines.push, hc]
      have hcome : itemsFrom s.handler s.operation lines (.data b :: rest) =
          itemsFrom s.handler s.operation (lines.push b) rest := by
        rw [itemsFrom, laterItems_data, hc, hpush]; rfl
      unfold pull
      simp only [live, Bool.false_eq_true, if_false, hcome]
      rcases hf : firstItem s.handler s.operation (lines.push b).complete with
        ⟨_ | item, notices, left⟩
      · have hcut : itemsFrom s.handler s.operation (lines.push b) rest =
            itemsFrom s.handler s.operation { lines.push b with complete := [] } rest := by
          rw [itemsFrom, lineItems_eq_nil hf]; rfl
        rw [hcut]
        exact ih ⟨hr'.ends, hr'.quiet, hr'.exhausted, hr'.uncut⟩ he hd live rfl
      · have hg := serve_gives hr' he live hf
        rw [toCome, if_neg (by simp [he])] at hg
        exact hg
    | fault f =>
      have hr' : Reading { s with
          body := { s.body with pending := rest }, lines, ended := true } :=
        ⟨.inl rfl, hquiet, by simp [hd], hr.uncut⟩
      have hcome : itemsFrom s.handler s.operation lines (.fault f :: rest) = [.error f] := by
        have := hr.uncut
        simp_all [itemsFrom, laterItems, lineItems, Arrival.received]
      rw [hcome]
      exact ⟨rfl, ⟨hr', rfl, rfl, live⟩, Nat.le_refl _⟩
    | firing h =>
      have hne : s.handle ≠ h := fun he => hr.quiet (.firing h) (by simp) (he ▸ rfl)
      have hg := ih (t := (t.fire h).2) ⟨hends (by simp), hquiet, by simp [hd], hr.uncut⟩ he hd
        (by simp [live, hne]) hc
      rw [Timeline.now_fire] at hg
      exact hg
    | delay ms =>
      have hr' : Reading { s with body := { s.body with pending := rest }, lines } :=
        ⟨hends (by simp), hquiet, by simp [hd], hr.uncut⟩
      unfold pull
      split_ifs with h0
      · exact (ih hr' he hd live hc).mono (by simp [Arrival.waits])
      · exact suspend_gives hr' he hd live (Nat.le_add_right _ _) (by simp [waits, Arrival.waits])
    | due time =>
      have hr' : Reading { s with body := { s.body with pending := rest }, lines } :=
        ⟨hends (by simp), hquiet, by simp [hd], hr.uncut⟩
      unfold pull
      split_ifs with h0
      · exact (ih hr' he hd live hc).mono (by simp [Arrival.waits, h0])
      · exact suspend_gives hr' he hd live (by omega) (by simp [waits, Arrival.waits, h0])

/-- **One poll gives the first of the items to come.** -/
theorem poll_gives (hr : Reading s) (live : t.isFired s.handle = false) :
    Gives s.handle t.now (s.waits t.now) s.toCome (s.poll t) := by
  unfold poll
  split_ifs with he hf
  · exact if_pos he
  · simp [live] at hf
  · have he : s.ended = false := by simpa using he
    rcases hf : firstItem s.handler s.operation s.lines.complete with ⟨_ | item, notices, left⟩
    · have hr' : Reading { s with lines := { s.lines with complete := [] } } :=
        ⟨hr.ends, hr.quiet, hr.exhausted, hr.uncut⟩
      have hcome : s.toCome = upToFailure (itemsFrom s.handler s.operation
          { s.lines with complete := [] } s.body.pending) := by
        rw [toCome, if_neg (by simp [he]), itemsFrom, lineItems_eq_nil hf]; rfl
      dsimp only
      split_ifs with hd
      · have hg := drain_gives (t := t.report notices) (n := s.waits t.now) hr' he live hd rfl
        rw [toCome, if_neg (by simp [he])] at hg
        rw [hcome]
        exact hg
      · rw [hcome]
        exact pull_gives s.body.pending (t := t.report notices) hr' he (by simpa using hd) live rfl
    · exact serve_gives hr he live hf

/-- Whatever time passes between polls, the items are those to come. -/
theorem Drains.items_eq {items : List Item} (hd : Drains s t items) (hr : Reading s)
    (live : t.isFired s.handle = false) : items = s.toCome := by
  induction hd with
  | ended h =>
    have hg := poll_gives hr live
    rw [h] at hg
    exact hg.symm
  | item h _ live' _ ih =>
    have hg := poll_gives hr live
    rw [h] at hg
    obtain ⟨hi, hk, _⟩ := hg
    rw [hi, ih hk.reading live']
  | waiting h _ live' _ ih =>
    have hg := poll_gives hr live
    rw [h] at hg
    obtain ⟨hi, hk, _⟩ := hg
    rw [hi, ih hk.reading live']

/-- A stream can be drained: each poll gives an item or leaves fewer waits. -/
theorem exists_drains (hr : Reading s) (live : t.isFired s.handle = false) :
    Drains s t s.toCome := by
  generalize hm : s.waits t.now + s.toCome.length = m
  induction m using Nat.strong_induction_on generalizing s t with
  | h m ih =>
    have hg := poll_gives hr live
    rcases hp : s.poll t with ⟨(_ | item) | w, s', t'⟩
    · rw [hp] at hg
      rw [show s.toCome = [] from hg]
      exact .ended hp
    · rw [hp] at hg
      obtain ⟨hi, hk, hn⟩ := hg
      have live' : t'.isFired s'.handle = false := by rw [hk.handle]; exact hk.live
      have hlen := congrArg List.length hi
      rw [List.length_cons] at hlen
      rw [hi]
      exact .item hp (Nat.le_refl _) live' (ih _ (by rw [hk.now]; omega) hk.reading live' rfl)
    · rw [hp] at hg
      obtain ⟨hi, hk, time, later, hn⟩ := hg
      have live' : { t' with now := time }.isFired s'.handle = false := by
        rw [hk.handle]; exact hk.live
      rw [hi]
      refine .waiting hp (u := { t' with now := time }) (by rw [hk.now]; exact later) live' ?_
      exact ih _ (by rw [← hm, hi]; dsimp only; omega) hk.reading live' rfl

theorem drains_iff (hr : Reading s) (live : t.isFired s.handle = false) {items : List Item} :
    Drains s t items ↔ items = s.toCome :=
  ⟨fun hd => hd.items_eq hr live, fun he => he ▸ exists_drains hr live⟩

/-- The stream over the body of a response, nothing of it read. -/
def opened (handler : ErrorHandler) (op : Operation) (h : Handle) (r : HttpResponse) :
    EventStream :=
  { handler, operation := op, handle := h, body := r.body.arrivals }

theorem events_of_accepted {σ : Type} {handler : ErrorHandler} {op : Operation} {h : Handle}
    {r : HttpResponse} (accepted : r.head.status = 200)
    (framed : isEventStream r.head.headers.contentType? = true) :
    (r.events handler op h : Future σ (Except Failure EventStream)) =
      .done (.ok (opened handler op h r)) := by
  simp only [HttpResponse.events, accepted, framed]
  rfl

theorem reading_opened {handler : ErrorHandler} {op : Operation} {h : Handle} {r : HttpResponse}
    (ends : r.body.arrivals.Ends) (quiet : ∀ a ∈ r.body.arrivals.pending, a ≠ .firing h) :
    Reading (opened handler op h r) :=
  ⟨.inr ends, quiet, by simp [opened], rfl⟩

/-- **The items of a subscription are those of its body as a whole.** The
right side knows the bytes that arrive and the fault behind them, not how they
were cut into pieces or when they came; so two bodies that bring the same
bytes and the same fault give the same items. -/
theorem drains_events_iff {σ : Type} (handler : ErrorHandler) (op : Operation) (h : Handle)
    (r : HttpResponse) (accepted : r.head.status = 200)
    (framed : isEventStream r.head.headers.contentType? = true) (ends : r.body.arrivals.Ends)
    (quiet : ∀ a ∈ r.body.arrivals.pending, a ≠ .firing h) (t : Timeline)
    (live : t.isFired h = false) :
    ∃ s : EventStream,
      (r.events handler op h : Future σ (Except Failure EventStream)) = .done (.ok s) ∧
        ∀ items, Drains s t items ↔ items = bodyItems handler op
          (Arrival.received r.body.arrivals.pending).1
          (Arrival.received r.body.arrivals.pending).2 := by
  let s : EventStream := { handler, operation := op, handle := h, body := r.body.arrivals }
  have hr : Reading s := ⟨.inr ends, quiet, by simp [s], rfl⟩
  have hcome : s.toCome = bodyItems handler op (Arrival.received r.body.arrivals.pending).1
      (Arrival.received r.body.arrivals.pending).2 := upToFailure_itemsFrom_start handler op _
  refine ⟨s, ?_, fun items => ?_⟩
  · simp only [HttpResponse.events, accepted, framed]; rfl
  · rw [← hcome]
    exact ⟨fun hd => hd.items_eq hr live, fun he => he ▸ exists_drains hr live⟩

/-- An event cut inside its payload and in front of its line feed, a pause, a
line of another field, and a fault behind an unfinished line. -/
def cutResponse : HttpResponse where
  head := ⟨200, [("content-type", Text.Utf8.encode "text/event-stream; charset=utf-8")]⟩
  body := .streamed { pending :=
    [.data (Text.Utf8.encode "data: \x7b\"da"), .delay 5,
      .data (Text.Utf8.encode "ta\":true\x7d\r"), .data [],
      .data (Text.Utf8.encode "\n: x\ndata: y"), .fault .timeout] }

def onTick : Operation := ⟨"OnTick", "subscription OnTick \x7b tick \x7d", .subscription⟩

theorem drains_cutResponse :
    ∃ s : EventStream,
      (cutResponse.events ErrorHandler.raise onTick ⟨0⟩ :
        Future Unit (Except Failure EventStream)) = .done (.ok s) ∧
        ∀ items, Drains s {} items ↔ items = bodyItems ErrorHandler.raise onTick
          (Text.Utf8.encode "data: \x7b\"data\":true\x7d\r\n: x\ndata: y") (some .timeout) :=
  drains_events_iff _ onTick _ cutResponse rfl (by decide +kernel) (.inl rfl)
    (by simp [cutResponse, Body.arrivals]) {} rfl

end EventStream
end GraphQLClient
