import GraphQLClient.Proofs.Response.EventItems
import GraphQLClient.Proofs.Response.UntouchedStream
import Mathlib.Order.Bounds.Defs

/-! # How much of a body a stream has read

A stream reads no piece ahead. The lines with items end in line feeds at known
places of the body (`itemFeeds`). When such an item is handed over, the pieces
read are the fewest that have its line feed; a stream that waits has not read the
line feed of its next item, and waits for nothing but more of the body; and it
does not end before all these items have been handed over, but for a failure or
its handle (`Prompt`). The invariant (`Progress`) is that all lines of the earlier
pieces have been consumed, for a piece is read only when no complete line is
left. -/

namespace GraphQLClient

/-! ## Pieces and line feeds -/

namespace Arrival

def piece? : Arrival → Option Bytes
  | .data b => some b
  | _ => none

/-- The pieces of a body, in the order in which they arrive. -/
def pieces (arrivals : List Arrival) : List Bytes := arrivals.filterMap piece?

end Arrival

open Arrival (pieces received)

theorem take_succ_of_drop_eq {α : Type} {xs rest : List α} {x : α} {m : Nat}
    (h : xs.drop m = x :: rest) : xs.take (m + 1) = xs.take m ++ [x] := by
  rw [List.take_add, h]
  rfl

theorem drop_succ_of_drop_eq {α : Type} {xs rest : List α} {x : α} {m : Nat}
    (h : xs.drop m = x :: rest) : xs.drop (m + 1) = rest := by
  rw [← List.drop_drop, h]
  rfl

namespace EventStream

/-- The pieces of the body that a stream has not read. -/
def unread (s : EventStream) : List Bytes := pieces s.body.pending

section

variable (handler : ErrorHandler) (op : Operation)

/-- What stands between some place and the last line feed in front of it. -/
def lineBefore (bytes : Bytes) (p : Nat) : Bytes := ((bytes.take p).splitOn 0x0A).getLastD []

/-- The item of the line that a line feed at some place ends. -/
def itemFeed? (bytes : Bytes) (p : Nat) : Option (Nat × Item) :=
  if bytes[p]? = some 0x0A then
    (lineItem? handler op (lineText (lineBefore bytes p))).map (p, ·)
  else none

/-- The line feeds that end a line with an item, by their places, and these items. -/
def itemFeeds (bytes : Bytes) : List (Nat × Item) :=
  (List.range bytes.length).filterMap (itemFeed? handler op bytes)

variable {handler op} in
theorem eq_of_itemFeed? {bytes : Bytes} {p : Nat} {feed : Nat × Item}
    (h : itemFeed? handler op bytes p = some feed) : feed.1 = p := by
  unfold itemFeed? at h
  split_ifs at h
  obtain ⟨item, -, rfl⟩ := Option.map_eq_some_iff.1 h
  rfl

/-- A line feed and the line that it ends do not depend on what comes behind. -/
theorem itemFeed?_append {a : Bytes} {p : Nat} (h : p < a.length) (b : Bytes) :
    itemFeed? handler op (a ++ b) p = itemFeed? handler op a p := by
  unfold itemFeed? lineBefore
  rw [List.getElem?_append_left h, List.take_append_of_le_length h.le]

theorem itemFeeds_append (a b : Bytes) :
    itemFeeds handler op (a ++ b) = itemFeeds handler op a ++
      ((List.range b.length).map (a.length + ·)).filterMap (itemFeed? handler op (a ++ b)) := by
  rw [itemFeeds, List.length_append, List.range_add, List.filterMap_append]
  congr 1
  exact List.filterMap_congr fun p hp => itemFeed?_append handler op (List.mem_range.1 hp) b

/-- The items of the line feeds are those of the lines that they end. -/
theorem map_snd_itemFeeds (bytes : Bytes) :
    (itemFeeds handler op bytes).map Prod.snd = lineItems handler op (cutLines bytes).1 := by
  induction bytes using List.reverseRecOn with
  | nil => rfl
  | append_singleton bytes b ih =>
    have hlast : itemFeed? handler op (bytes ++ [b]) bytes.length =
        if b = 0x0A then
          (lineItem? handler op (lineText (cutLines bytes).2)).map (bytes.length, ·)
        else none := by
      simp [itemFeed?, lineBefore, cutLines_eq_splitOn]
    have hcut : (cutLines ((cutLines bytes).2 ++ [b])).1 =
        if b = 0x0A then [(cutLines bytes).2] else [] := by
      have htail := not_mem_cutLines_tail bytes
      split_ifs with hb
      · rw [hb, cutLines_line htail]
        rfl
      · rw [cutLines_of_not_mem (by simp [htail, Ne.symm hb])]
    rw [itemFeeds_append, List.map_append, ih, cutLines_append, lineItems_append, hcut]
    congr 1
    split_ifs at hlast ⊢ <;>
      cases hi : lineItem? handler op (lineText (cutLines bytes).2) <;>
      simp_all [lineItems]

/-- Which line feeds stand in the first bytes is known from the items of their lines. -/
theorem itemFeed_lt_iff {a b : Bytes} {n : Nat} {feed : Nat × Item}
    (h : (itemFeeds handler op (a ++ b))[n]? = some feed) :
    feed.1 < a.length ↔ n < (lineItems handler op (cutLines a).1).length := by
  rw [itemFeeds_append] at h
  rw [← map_snd_itemFeeds, List.length_map]
  constructor
  · intro hp
    by_contra hn
    rw [List.getElem?_append_right (by omega)] at h
    obtain ⟨p, hm, hf⟩ := List.mem_filterMap.1 (List.mem_of_getElem? h)
    obtain ⟨i, -, rfl⟩ := List.mem_map.1 hm
    have := eq_of_itemFeed? hf
    omega
  · intro hn
    rw [List.getElem?_append_left hn] at h
    obtain ⟨p, hm, hf⟩ := List.mem_filterMap.1 (List.mem_of_getElem? h)
    rw [eq_of_itemFeed? hf]
    exact List.mem_range.1 hm

/-- The items of the lines that end in the first pieces. -/
def itemsIn (arrivals : List Arrival) (k : Nat) : List Item :=
  lineItems handler op (cutLines ((pieces arrivals).take k).flatten).1

end

/-! ## A stream between two polls -/

section

variable (s₀ : EventStream)

/-- A stream that was `s₀` when nothing of its body was read, and has since read `m` pieces and
handed over `items`: the lines in these pieces have been consumed but for the complete ones that it
still holds, and all lines in fewer pieces. -/
structure Progress (m : Nat) (items : List Item) (s : EventStream) : Prop where
  reading : s.bodyDone = false
  unread : s.unread = (pieces s₀.body.pending).drop m
  bytes : (received s₀.body.pending).1 =
    ((pieces s₀.body.pending).take m).flatten ++ (received s.body.pending).1
  consumed : ∃ done, cutLines ((pieces s₀.body.pending).take m).flatten =
    (done ++ s.lines.complete, s.lines.tail) ∧ lineItems s₀.handler s₀.operation done = items
  fewer : ∀ k < m, (itemsIn s₀.handler s₀.operation s₀.body.pending k).length ≤ items.length
  failed : s.ended = true → ∃ f, .error f ∈ items
  handler : s.handler = s₀.handler
  operation : s.operation = s₀.operation
  handle : s.handle = s₀.handle
  staysOpen : s.body.staysOpen = s₀.body.staysOpen

/-- A stream that hands over nothing any more. -/
def Over (s : EventStream) : Prop := s.ended = true ∨ s.bodyDone = true ∧ s.lines = {}

/-- The items of all line feeds have been handed over. -/
def AllFed (items : List Item) : Prop :=
  (itemFeeds s₀.handler s₀.operation (received s₀.body.pending).1).map Prod.snd <+: items

/-- What a stream with a handle waits for, if it could be made to wait `n` times: for something
that arrives later, behind which there are fewer waits left, or for more of a body that has brought
all it has and stays open. -/
def Awaits (h : Handle) (staysOpen : Bool) (n : Nat) (w : Wait) (s : EventStream) (t : Timeline) :
    Prop :=
  (∃ time, t.now < time ∧ w = (Wait.upTo time).orFiring h ∧
    Arrival.waits time s.body.pending < n) ∨
  (staysOpen = true ∧ s.body.pending = [] ∧ w = ({} : Wait).orFiring h)

/-- What a step does that begins when `items` have been handed over and `n` waits are left. -/
def Advances (n : Nat) (items : List Item) : Step → Prop
  | (.ready none, s, t) =>
    s.Over ∧ (t.isFired s₀.handle = true ∨ (∃ f, .error f ∈ items) ∨ s₀.AllFed items)
  | (.ready (some item), s, _) =>
    (∃ m, s₀.Progress m (items ++ [item]) s ∧
      ∀ k < m, (itemsIn s₀.handler s₀.operation s₀.body.pending k).length ≤ items.length) ∨
    (s.Over ∧ s₀.AllFed items)
  | (.waiting w, s, t) =>
    (∃ m, s₀.Progress m items s ∧ s.lines.complete = []) ∧
      Awaits s₀.handle s₀.body.staysOpen n w s t

end

variable {s₀ s : EventStream} {rest : List Arrival} {m n : Nat} {items : List Item} {lines : Lines}
  {t : Timeline}

theorem Advances.mono {step : Step} {k : Nat} (ha : s₀.Advances n items step) (hnk : n ≤ k) :
    s₀.Advances k items step := by
  obtain ⟨(_ | item) | w, s, t⟩ := step
  · exact ha
  · exact ha
  · obtain ⟨hp, ⟨time, hlater, hw, hn⟩ | hopen⟩ := ha
    · exact ⟨hp, .inl ⟨time, hlater, hw, hn.trans_le hnk⟩⟩
    · exact ⟨hp, .inr hopen⟩

/-- The stream ends because its handle has fired, -/
theorem finish_advances_of_isFired (hh : s.handle = s₀.handle)
    (hf : t.isFired s.handle = true) : s₀.Advances n items (s.finish t) :=
  ⟨.inl rfl, .inl (by rw [← hh]; exact hf)⟩

/-- or because there is nothing left. -/
theorem finish_advances_of_allFed (hall : s₀.AllFed items) : s₀.Advances n items (s.finish t) :=
  ⟨.inl rfl, .inr (.inr hall)⟩

/-- The first item of the complete lines. -/
theorem serve_advances (hp : s₀.Progress m items s) (he : s.ended = false)
    {item : Item} {notices : List Notice} {left : List Bytes}
    (hf : firstItem s₀.handler s₀.operation s.lines.complete = (some item, notices, left)) :
    s₀.Advances n items
      ({ s with lines := { s.lines with complete := left } }.deliver item t) := by
  obtain ⟨read, hread, hitem⟩ : ∃ read, s.lines.complete = read ++ left ∧
      lineItems s₀.handler s₀.operation read = [item] := by
    have := firstItem_spec s₀.handler s₀.operation s.lines.complete
    rwa [hf] at this
  obtain ⟨done, hcut, hdone⟩ := hp.consumed
  have hp' (ended : Bool) (hfailed : ended = true → ∃ f, .error f ∈ items ++ [item]) :
      s₀.Progress m (items ++ [item])
        { s with lines := { s.lines with complete := left }, ended } :=
    { hp with
      consumed := ⟨done ++ read, by rw [hcut, hread, List.append_assoc],
        by rw [lineItems_append, hdone, hitem]⟩
      fewer := fun k hk => (hp.fewer k hk).trans (by simp)
      failed := hfailed }
  cases item with
  | ok data =>
    have hlive : s.ended = true → ∃ f, .error f ∈ items ++ [Except.ok data] := by simp [he]
    exact .inl ⟨m, hp' s.ended hlive, hp.fewer⟩
  | error f => exact .inl ⟨m, hp' true fun _ => ⟨f, by simp⟩, hp.fewer⟩

/-- Complete lines that bring nothing are consumed. -/
theorem Progress.skip (hp : s₀.Progress m items s)
    (hnone : lineItems s₀.handler s₀.operation s.lines.complete = []) :
    s₀.Progress m items { s with lines := { s.lines with complete := [] } } := by
  obtain ⟨done, hcut, hdone⟩ := hp.consumed
  refine { hp with consumed := ⟨done ++ s.lines.complete, ?_, ?_⟩ }
  · rw [hcut, List.append_nil]
  · rw [lineItems_append, hdone, hnone, List.append_nil]

/-- When no complete line is left, all items of the pieces read have been handed over. -/
theorem Progress.itemsIn_eq (hp : s₀.Progress m items s) (hc : s.lines.complete = []) :
    itemsIn s₀.handler s₀.operation s₀.body.pending m = items := by
  obtain ⟨done, hcut, hdone⟩ := hp.consumed
  rw [itemsIn, hcut, hc, List.append_nil, hdone]

/-- One more piece, read when no complete line is left. -/
theorem Progress.push (hp : s₀.Progress m items s)
    (hc : s.lines.complete = []) {b : Bytes} (hb : s.body.pending = .data b :: rest) :
    s₀.Progress (m + 1) items
      { s with body := { s.body with pending := rest }, lines := s.lines.push b } := by
  have hdrop : (pieces s₀.body.pending).drop m = b :: pieces rest := by
    rw [← hp.unread, EventStream.unread, hb]
    rfl
  have hflat : ((pieces s₀.body.pending).take (m + 1)).flatten =
      ((pieces s₀.body.pending).take m).flatten ++ b := by
    simp [take_succ_of_drop_eq hdrop]
  obtain ⟨done, hcut, hdone⟩ := hp.consumed
  refine { hp with
    unread := (drop_succ_of_drop_eq hdrop).symm
    bytes := ?_
    consumed := ⟨done, ?_, hdone⟩
    fewer := fun k hk => ?_ }
  · rw [hp.bytes, hb, hflat, List.append_assoc]
    rfl
  · rw [hflat, cutLines_append, hcut, hc]
    simp [Lines.push, hc]
  · rcases Nat.lt_succ_iff_lt_or_eq.1 hk with hk | rfl
    · exact hp.fewer k hk
    · rw [hp.itemsIn_eq hc]

/-- The end of the bytes: no line feed is left. -/
theorem Progress.allFed (hp : s₀.Progress m items s) (hc : s.lines.complete = [])
    (hend : (received s.body.pending).1 = []) : s₀.AllFed items := by
  have hall : (itemFeeds s₀.handler s₀.operation (received s₀.body.pending).1).map Prod.snd =
      items := by
    rw [map_snd_itemFeeds, hp.bytes, hend, List.append_nil]
    exact hp.itemsIn_eq hc
  exact ⟨[], (List.append_nil _).trans hall⟩

/-- Arrivals without bytes make no difference. -/
theorem Progress.past (hp : s₀.Progress m items s)
    (hu : pieces rest = pieces s.body.pending)
    (hb : (received rest).1 = (received s.body.pending).1) :
    s₀.Progress m items { s with body := { s.body with pending := rest } } :=
  { hp with unread := hu.trans hp.unread, bytes := hp.bytes.trans (by rw [hb]) }

theorem drain_advances (hd : s.bodyDone = true) (hall : s₀.AllFed items) :
    s₀.Advances n items (s.drain t) := by
  unfold drain
  split
  · exact finish_advances_of_allFed hall
  · split
    · next item notices _ =>
      cases item with
      | ok data => exact .inr ⟨.inr ⟨hd, rfl⟩, hall⟩
      | error f => exact .inr ⟨.inl rfl, hall⟩
    · exact finish_advances_of_allFed hall

/-- Nothing arrives before some time. -/
theorem suspend_advances (hp : s₀.Progress m items s) (hc : s.lines.complete = []) {time : Nat}
    (later : t.now < time) (hn : Arrival.waits t.now s.body.pending < n) :
    s₀.Advances n items
      ({ s with body := { s.body with pending := .due time :: s.body.pending } }.suspend
        (.upTo time) t) := by
  refine ⟨⟨m, hp.past rfl rfl, hc⟩, .inl ⟨time, later, by rw [hp.handle], ?_⟩⟩
  calc Arrival.waits time (.due time :: s.body.pending)
      = Arrival.waits time s.body.pending := by simp [Arrival.waits]
    _ ≤ Arrival.waits t.now s.body.pending := Arrival.waits_antitone later.le _
    _ < n := hn

/-- Reading on in the body. The recursion is that of `pull`, on the arrivals. -/
theorem pull_advances (rest : List Arrival) : ∀ {m : Nat} {s : EventStream} {lines : Lines}
    {t : Timeline},
    s₀.Progress m items { s with body := { s.body with pending := rest }, lines } →
    s.ended = false → lines.complete = [] →
    s₀.Advances (Arrival.waits t.now rest) items (s.pull rest lines t) := by
  induction rest with
  | nil =>
    intro m s lines t hp he hc
    unfold pull
    split
    · next hopen =>
      exact ⟨⟨m, hp, hc⟩, .inr ⟨hp.staysOpen.symm.trans hopen, rfl, by rw [← hp.handle]⟩⟩
    · dsimp only
      split
      · next hf => exact finish_advances_of_isFired hp.handle hf
      · exact drain_advances rfl (hp.allFed hc rfl)
  | cons a rest ih =>
    intro m s lines t hp he hc
    have hpast (hu : pieces rest = pieces (a :: rest))
        (hb : (received rest).1 = (received (a :: rest)).1) :
        s₀.Progress m items { s with body := { s.body with pending := rest }, lines } :=
      hp.past hu hb
    have hpull (u : Timeline) (hp : s₀.Progress m items
        { s with body := { s.body with pending := rest }, lines }) :
        s₀.Advances (Arrival.waits u.now rest) items (s.pull rest lines u) := ih hp he hc
    cases a with
    | data b =>
      have hp' := hp.push hc rfl
      unfold pull
      dsimp only at hp' ⊢
      split
      · next hf => exact finish_advances_of_isFired hp.handle hf
      · have hhandler : s.handler = s₀.handler := hp.handler
        have hop : s.operation = s₀.operation := hp.operation
        rcases hf : firstItem s.handler s.operation (lines.push b).complete with
          ⟨_ | item, notices, left⟩
        all_goals rw [hhandler, hop] at hf
        · exact ih (t := t.report notices) (hp'.skip (lineItems_eq_nil hf)) he rfl
        · exact serve_advances hp' he hf
    | fault f => exact .inr ⟨.inl rfl, hp.allFed hc rfl⟩
    | firing h =>
      have ha := hpull (t.fire h).2 (hpast rfl rfl)
      rwa [Timeline.now_fire] at ha
    | delay ms =>
      unfold pull
      split_ifs with h0
      · exact (hpull t (hpast rfl rfl)).mono (by simp [Arrival.waits])
      · exact suspend_advances (hpast rfl rfl) hc (by omega) (by simp [Arrival.waits])
    | due time =>
      unfold pull
      split_ifs with h0
      · exact (hpull t (hpast rfl rfl)).mono (by simp [Arrival.waits, h0])
      · exact suspend_advances (hpast rfl rfl) hc (by omega) (by simp [Arrival.waits, h0])

/-- **One poll** of a stream that is not over. -/
theorem poll_advances (hp : s₀.Progress m items s) (t : Timeline) :
    s₀.Advances (Arrival.waits t.now s.body.pending) items (s.poll t) := by
  unfold poll
  split_ifs with he hf
  · exact ⟨.inl he, .inr (.inl (hp.failed he))⟩
  · exact finish_advances_of_isFired hp.handle hf
  · have he : s.ended = false := by simpa using he
    rcases hf : firstItem s.handler s.operation s.lines.complete with ⟨_ | item, notices, left⟩
    all_goals rw [hp.handler, hp.operation] at hf
    · dsimp only
      rw [if_neg (by simp [hp.reading])]
      exact pull_advances _ (t := t.report notices) (hp.skip (lineItems_eq_nil hf)) he rfl
    · exact serve_advances hp he hf

theorem Over.poll (ho : s.Over) (t : Timeline) :
    (s.poll t).1 = .ready none ∧ (s.poll t).2.1.Over := by
  unfold EventStream.poll
  split
  · exact ⟨rfl, ho⟩
  · next he =>
    obtain ⟨hd, hl⟩ := ho.resolve_left he
    split
    · exact ⟨rfl, .inl rfl⟩
    · rw [hl, hd]
      exact ⟨rfl, .inl rfl⟩

/-! ## Polled on and on -/

def Step.item? : Step → Option Item
  | (.ready item, _, _) => item
  | (.waiting _, _, _) => none

/-- The items that some polls hand over. -/
def handedOver (steps : List Step) : List Item := steps.filterMap Step.item?

theorem handedOver_snoc (steps : List Step) (step : Step) :
    handedOver (steps ++ [step]) = handedOver steps ++ step.item?.toList := by
  rw [handedOver, List.filterMap_append]
  cases h : step.item? <;> simp [handedOver, h]

/-- Polls of a stream one behind the other, with anything in between, and what has become of the
stream. -/
inductive Polled (s₀ : EventStream) : List Step → EventStream → Prop
  | start : Polled s₀ [] s₀
  | poll {steps : List Step} {s : EventStream} (run : Polled s₀ steps s) (t : Timeline) :
    Polled s₀ (steps ++ [s.poll t]) (s.poll t).2.1

/-- Why a stream may be over behind some polls: its handle has fired behind one of them, it has
handed over a failure, or the items of all line feeds. -/
def Excused (s₀ : EventStream) (steps : List Step) : Prop :=
  (∃ step ∈ steps, step.2.2.isFired s₀.handle = true) ∨
    (∃ f, .error f ∈ handedOver steps) ∨ s₀.AllFed (handedOver steps)

theorem Excused.snoc {steps : List Step} (he : s₀.Excused steps) (step : Step) :
    s₀.Excused (steps ++ [step]) := by
  rcases he with ⟨fired, hm, hf⟩ | ⟨f, hm⟩ | hall
  · exact .inl ⟨fired, List.mem_append_left _ hm, hf⟩
  · rw [Excused, handedOver_snoc]
    exact .inr (.inl ⟨f, List.mem_append_left _ hm⟩)
  · rw [Excused, handedOver_snoc]
    exact .inr (.inr (hall.trans (List.prefix_append _ _)))

theorem Advances.excused {steps : List Step}
    (ha : s₀.Advances n (handedOver steps) (.ready none, s, t)) :
    s₀.Excused (steps ++ [(.ready none, s, t)]) := by
  obtain ⟨-, hf | hrest⟩ := ha
  · exact .inl ⟨_, List.mem_append_right _ List.mem_cons_self, hf⟩
  · rw [Excused, handedOver_snoc]
    exact .inr (by simpa [Step.item?] using hrest)

theorem Advances.over_or_progress {steps : List Step} {step : Step}
    (ha : s₀.Advances n (handedOver steps) step) :
    step.2.1.Over ∧ s₀.Excused (steps ++ [step]) ∨
      ∃ m, s₀.Progress m (handedOver (steps ++ [step])) step.2.1 := by
  obtain ⟨(_ | item) | w, s, t⟩ := step
  · exact .inl ⟨ha.1, ha.excused⟩
  · rw [Excused, handedOver_snoc]
    rcases ha with ⟨m, hp, -⟩ | ⟨ho, hall⟩
    · exact .inr ⟨m, hp⟩
    · exact .inl ⟨ho, .inr (.inr (hall.trans (List.prefix_append _ _)))⟩
  · obtain ⟨⟨m, hp, -⟩, -⟩ := ha
    rw [handedOver_snoc]
    exact .inr ⟨m, by simpa [Step.item?] using hp⟩

/-- **A stream goes on or has an excuse**, however often it is polled. -/
theorem Polled.over_or_progress {steps : List Step} (hs : s₀.Progress 0 [] s₀)
    (run : Polled s₀ steps s) :
    s.Over ∧ s₀.Excused steps ∨ ∃ m, s₀.Progress m (handedOver steps) s := by
  induction run with
  | start => exact .inr ⟨0, hs⟩
  | poll _ t ih =>
    rcases ih with ⟨ho, he⟩ | ⟨m, hp⟩
    · exact .inl ⟨(ho.poll t).2, he.snoc _⟩
    · exact (poll_advances hp t).over_or_progress

/-- A poll that does not come to the end advances. -/
theorem Polled.advances {steps : List Step} (hs : s₀.Progress 0 [] s₀) (run : Polled s₀ steps s)
    (hn : (s.poll t).1 ≠ .ready none) :
    s₀.Advances (Arrival.waits t.now s.body.pending) (handedOver steps) (s.poll t) := by
  rcases run.over_or_progress hs with ⟨ho, -⟩ | ⟨m, hp⟩
  · exact absurd (ho.poll t).1 hn
  · exact poll_advances hp t

theorem Polled.spares {h : Handle} {steps : List Step} (hs : s₀.Spares h)
    (run : Polled s₀ steps s) : s.Spares h := by
  induction run with
  | start => exact hs
  | poll _ t ih => exact (poll_leavesAlone ih t).2

/-- The line feeds of fewer pieces are known from the items in these. -/
theorem Progress.feed_lt_iff (hp : s₀.Progress m items s) {n k : Nat} {feed : Nat × Item}
    (hf : (itemFeeds s₀.handler s₀.operation (received s₀.body.pending).1)[n]? = some feed)
    (hk : k ≤ m) :
    feed.1 < ((pieces s₀.body.pending).take k).flatten.length ↔
      n < (itemsIn s₀.handler s₀.operation s₀.body.pending k).length := by
  have hsplit : (pieces s₀.body.pending).take m =
      (pieces s₀.body.pending).take k ++ ((pieces s₀.body.pending).take m).drop k := by
    conv_lhs => rw [← List.take_append_drop k ((pieces s₀.body.pending).take m), List.take_take,
      Nat.min_eq_left hk]
  rw [hp.bytes, hsplit, List.flatten_append, List.append_assoc] at hf
  exact itemFeed_lt_iff s₀.handler s₀.operation hf

/-- What a stream promises over a body of which it has read nothing at first. -/
structure Prompt (handler : ErrorHandler) (op : Operation) (h : Handle) (body : Arrivals)
    (s₀ : EventStream) : Prop where
  unread : s₀.unread = pieces body.pending
  /-- When an item is handed over whose line a line feed ends, the pieces read are the fewest with
  this line feed. -/
  delivered : ∀ {steps : List Step} {s : EventStream} {t item s' t' feed}, Polled s₀ steps s →
    s.poll t = (.ready (some item), s', t') →
    (itemFeeds handler op (received body.pending).1)[(handedOver steps).length]? = some feed →
    item = feed.2 ∧ ∃ m, s'.unread = (pieces body.pending).drop m ∧
      IsLeast {k | feed.1 < ((pieces body.pending).take k).flatten.length} m
  /-- When the stream waits, it waits for more of the body, and the next such line feed is not in
  the pieces read. -/
  waiting : ∀ {steps : List Step} {s : EventStream} {t w s' t'}, Polled s₀ steps s →
    s.poll t = (.waiting w, s', t') →
    Awaits h body.staysOpen (Arrival.waits t.now s.body.pending) w s' t' ∧
      ∃ m, s'.unread = (pieces body.pending).drop m ∧
        ∀ feed ∈ (itemFeeds handler op (received body.pending).1)[(handedOver steps).length]?,
          ((pieces body.pending).take m).flatten.length ≤ feed.1
  /-- When the stream ends, although its handle has not fired and no failure was handed over, the
  items of all line feeds have been. -/
  ended : ∀ {steps : List Step} {s : EventStream} {t s' t'}, Polled s₀ steps s →
    s.poll t = (.ready none, s', t') →
    (∀ step ∈ steps, step.2.2.isFired h = false) → t'.isFired h = false →
    (∀ f, .error f ∉ handedOver steps) →
    (itemFeeds handler op (received body.pending).1).map Prod.snd <+: handedOver steps
  /-- It is not a poll that fires the handle, unless the body does. -/
  spares : body.Spares h → ∀ {steps : List Step} {s : EventStream} {t answer s' t'},
    Polled s₀ steps s → s.poll t = (answer, s', t') → Timeline.Agree h t t'

theorem Progress.prompt (hs : s₀.Progress 0 [] s₀) :
    Prompt s₀.handler s₀.operation s₀.handle s₀.body s₀ where
  unread := hs.unread
  delivered := by
    intro steps s t item s' t' feed run h hf
    have ha := run.advances hs (t := t) (by simp [h])
    rw [h] at ha
    rcases ha with ⟨m, hp, hfewer⟩ | ⟨-, hall⟩
    · obtain ⟨done, hcut, hdone⟩ := hp.consumed
      have hin : itemsIn s₀.handler s₀.operation s₀.body.pending m = handedOver steps ++
          item :: lineItems s₀.handler s₀.operation s'.lines.complete := by
        rw [itemsIn, hcut, lineItems_append, hdone, List.append_assoc]
        rfl
      constructor
      · have hitem : (lineItems s₀.handler s₀.operation
            (cutLines (received s₀.body.pending).1).1)[(handedOver steps).length]? = some item := by
          rw [hp.bytes, cutLines_append, lineItems_append, ← itemsIn, hin]
          simp
        rw [← map_snd_itemFeeds, List.getElem?_map, hf] at hitem
        exact (Option.some.inj hitem).symm
      · refine ⟨m, hp.unread, ?_, ?_⟩
        · exact (hp.feed_lt_iff hf le_rfl).2 (by simp [hin])
        · intro k hk
          by_contra hlt
          have hlt : k < m := Nat.lt_of_not_le hlt
          have := (hp.feed_lt_iff hf hlt.le).1 hk
          have := hfewer k hlt
          omega
    · have hle := hall.length_le
      rw [List.length_map] at hle
      rw [List.getElem?_eq_none hle] at hf
      cases hf
  waiting := by
    intro steps s t w s' t' run h
    have ha := run.advances hs (t := t) (by simp [h])
    rw [h] at ha
    obtain ⟨⟨m, hp, hc⟩, hawaits⟩ := ha
    refine ⟨hawaits, m, hp.unread, fun feed hf => Nat.le_of_not_lt fun hlt => ?_⟩
    have := (hp.feed_lt_iff hf le_rfl).1 hlt
    rw [hp.itemsIn_eq hc] at this
    omega
  ended := by
    intro steps s t s' t' run h hquiet hlive hok
    have he : s₀.Excused (steps ++ [s.poll t]) := by
      rcases run.over_or_progress hs with ⟨-, he⟩ | ⟨m, hp⟩
      · exact he.snoc _
      · have ha := poll_advances hp t
        rw [h] at ha ⊢
        exact ha.excused
    rw [h, Excused, handedOver_snoc] at he
    simp only [Step.item?, Option.toList_none, List.append_nil] at he
    rcases he with ⟨step, hm, hf⟩ | ⟨f, hm⟩ | hall
    · rcases List.mem_append.1 hm with hm | hm
      · rw [hquiet step hm] at hf
        cases hf
      · rw [List.mem_singleton.1 hm, hlive] at hf
        cases hf
    · exact absurd hm (hok f)
    · exact hall
  spares := by
    intro hspares steps s t answer s' t' run h
    have hl := poll_leavesAlone (run.spares hspares) t
    rw [h] at hl
    exact hl.1

/-- **The events of a response are prompt**, in every body, whether it ends or stays open: opening
the stream reads nothing, an event is handed over with the piece that brings its line feed, no
piece is read ahead, and no event is left out. -/
theorem events_prompt {σ : Type} (handler : ErrorHandler) (op : Operation) (h : Handle)
    (r : HttpResponse) (accepted : r.head.status = 200)
    (framed : isEventStream r.head.headers.contentType? = true) :
    ∃ s : EventStream,
      (r.events handler op h : Future σ (Except Failure EventStream)) = .done (.ok s) ∧
        Prompt handler op h r.body.arrivals s := by
  have hstart : (opened handler op h r).Progress 0 [] (opened handler op h r) :=
    { reading := rfl
      unread := rfl
      bytes := rfl
      consumed := ⟨[], rfl, rfl⟩
      fewer := fun k hk => absurd hk k.not_lt_zero
      failed := fun he => by cases he
      handler := rfl
      operation := rfl
      handle := rfl
      staysOpen := rfl }
  exact ⟨opened handler op h r, events_of_accepted accepted framed, hstart.prompt⟩

/-- A line feed on its own, two events in the piece behind it, and the beginning of a third. -/
def openTicks : HttpResponse where
  head := ⟨200, [("content-type", Text.Utf8.encode "text/event-stream")]⟩
  body := .streamed {
    pending := [.data (Text.Utf8.encode "data: \x7b\"data\":1\x7d"), .delay 5, .data [0x0A],
      .data [],
      .data (Text.Utf8.encode ": x\ndata: \x7b\"data\":2\x7d\ndata: \x7b\"data\":3\x7d\ndata: ")]
    staysOpen := true }

/-- The first event is waited for, and handed over with the second piece. -/
theorem openTicks_prompt :
    ∃ (s : EventStream) (second : Step) (v : Json),
      (openTicks.events ErrorHandler.raise onTick ⟨0⟩ :
        Future Unit (Except Failure EventStream)) = .done (.ok s) ∧
      Prompt ErrorHandler.raise onTick ⟨0⟩ openTicks.body.arrivals s ∧
      (s.poll {}).1 = .waiting (.orFiring (.upTo 5) ⟨0⟩) ∧
      second = (s.poll {}).2.1.poll { (s.poll {}).2.2 with now := 5 } ∧
      second.item? = some (.ok v) ∧ v.text = "1" ∧
      second.2.1.unread = (pieces openTicks.body.arrivals.pending).drop 2 := by
  obtain ⟨s, hs, hprompt⟩ := events_prompt (σ := Unit) ErrorHandler.raise onTick ⟨0⟩ openTicks rfl
    (by decide +kernel)
  obtain rfl : opened ErrorHandler.raise onTick ⟨0⟩ openTicks = s := by
    have hopened : (openTicks.events ErrorHandler.raise onTick ⟨0⟩ :
        Future Unit (Except Failure EventStream)) =
          .done (.ok (opened ErrorHandler.raise onTick ⟨0⟩ openTicks)) :=
      events_of_accepted rfl (by decide +kernel)
    cases hopened.symm.trans hs
    rfl
  set s := opened ErrorHandler.raise onTick ⟨0⟩ openTicks
  have hwaits : (s.poll {}).1 = .waiting (.orFiring (.upTo 5) ⟨0⟩) := by
    have hpiece : (Lines.push {} (Text.Utf8.encode "data: \x7b\"data\":1\x7d")).complete = [] := by
      decide +kernel
    simp [s, poll, opened, pull, openTicks, Body.arrivals, hpiece, firstItem, suspend,
      Timeline.isFired]
  -- A payload has no decidable equality, its text does.
  have htext : ((Step.item? ((s.poll {}).2.1.poll { (s.poll {}).2.2 with now := 5 })).bind
      Except.toOption).map Json.text = some "1" := by decide +kernel
  obtain ⟨v, hv, htext⟩ := Option.map_eq_some_iff.1 htext
  obtain ⟨item, hitem, hok⟩ := Option.bind_eq_some_iff.1 hv
  cases item with
  | error f => cases hok
  | ok w =>
    cases hok
    exact ⟨s, _, v, hs, hprompt, hwaits, rfl, hitem, htext, by decide +kernel⟩

/-- Its line feeds stand in the second piece and, two of them, in the fourth. -/
example : (itemFeeds ErrorHandler.raise onTick
    (received openTicks.body.arrivals.pending).1).map Prod.fst = [16, 37, 54] := by
  decide +kernel

end EventStream

end GraphQLClient
