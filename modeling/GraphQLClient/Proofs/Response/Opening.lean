import GraphQLClient.Proofs.Response.WholeBody
import Mathlib.Data.List.DropRight

/-! # Which responses open a stream

A response opens a stream of events just if its status is 200 and its first media
type names event streams (`Accepts`), and then nothing of its body has been read.
Every other response has its body read to the end first: a fault of the body is the
failure, and otherwise the status, the media type and the text of the whole body
are in it (`rejectionOf`). Which media types are accepted is said here by the form
of the header value, from left to right, and not by cutting and trimming. -/

namespace GraphQLClient

variable {σ : Type}

/-! ## The media type -/

/-- **Trimming** leaves a text without blanks just if it stands between blanks. -/
theorem Text.trimEnd_dropWhile_eq_iff {p : Char → Bool} {cs mid : List Char}
    (hmid : ∀ c ∈ mid, p c = false) (hne : mid ≠ []) :
    trimEnd p (cs.dropWhile p) = mid ↔
      ∃ before after, cs = before ++ (mid ++ after) ∧ ∀ c ∈ before ++ after, p c = true := by
  have htrimEnd (cs : List Char) : trimEnd p cs = cs.rdropWhile p := rfl
  constructor
  · rintro rfl
    refine ⟨cs.takeWhile p, (cs.dropWhile p).rtakeWhile p, ?_, fun c hc => ?_⟩
    · rw [htrimEnd, List.rdropWhile_append_rtakeWhile, List.takeWhile_append_dropWhile]
    · rcases List.mem_append.1 hc with hc | hc
      · exact List.mem_takeWhile_imp hc
      · exact List.mem_rtakeWhile_imp hc
  · rintro ⟨before, after, rfl, hp⟩
    obtain ⟨hbefore, hafter⟩ := List.forall_mem_append.1 hp
    obtain ⟨c, rest, rfl⟩ := List.exists_cons_of_ne_nil hne
    have hfront : ((c :: rest) ++ after).dropWhile p = (c :: rest) ++ after :=
      List.dropWhile_cons_of_neg (by simp [hmid c List.mem_cons_self])
    rw [List.dropWhile_append_of_pos hbefore, hfront, trimEnd, List.reverse_append,
      List.dropWhile_append_of_pos (by simpa using hafter)]
    exact List.rdropWhile_eq_self_iff.2 fun hl => by simp [hmid _ (List.getLast_mem hl)]

/-- No letter of the media type is a blank or a semicolon, in any case. -/
theorem plain_of_toLower_mem {c : Char} (h : c.toLower ∈ "text/event-stream".toList) :
    Text.isBlank c = false ∧ c ≠ ';' := by
  have hblanks : ∀ n ∈ Text.blanks, (Char.ofNat n).toLower ∉ "text/event-stream".toList := by
    decide
  constructor
  · by_contra hc
    refine hblanks c.toNat ?_ (by rwa [Char.ofNat_toNat])
    simpa [Text.isBlank] using hc
  · rintro rfl
    revert h
    decide

/-- The media type in front of the parameters, spelled from left to right. -/
theorem trim_takeWhile_iff {cs : List Char} :
    (Text.trimEnd Text.isBlank ((cs.takeWhile (· ≠ ';')).dropWhile Text.isBlank)).map Char.toLower =
        "text/event-stream".toList ↔
      ∃ before name after parameters, cs = before ++ (name ++ (after ++ parameters)) ∧
        (∀ c ∈ before ++ after, Text.isBlank c = true) ∧
        name.map Char.toLower = "text/event-stream".toList ∧ ∀ c ∈ parameters.head?, c = ';' := by
  have hplain {name : List Char} (hname : name.map Char.toLower = "text/event-stream".toList) :
      ∀ c ∈ name, Text.isBlank c = false ∧ c ≠ ';' :=
    fun c hc => plain_of_toLower_mem (hname ▸ List.mem_map_of_mem hc)
  have hne {name : List Char} (hname : name.map Char.toLower = "text/event-stream".toList) :
      name ≠ [] := by
    rintro rfl
    cases hname
  constructor
  · obtain ⟨name, hn⟩ : ∃ name, Text.trimEnd Text.isBlank
      ((cs.takeWhile (· ≠ ';')).dropWhile Text.isBlank) = name := ⟨_, rfl⟩
    rw [hn]
    intro hname
    obtain ⟨before, after, hmedia, hblank⟩ :=
      (Text.trimEnd_dropWhile_eq_iff (fun c hc => (hplain hname c hc).1) (hne hname)).1 hn
    refine ⟨before, name, after, cs.dropWhile (· ≠ ';'), ?_, hblank, hname, fun c hc => ?_⟩
    · rw [← List.append_assoc name, ← List.append_assoc before, ← hmedia,
        List.takeWhile_append_dropWhile]
    · have hhead := List.head?_dropWhile_not (· ≠ ';') cs
      rw [Option.mem_def.1 hc] at hhead
      simpa using hhead
  · rintro ⟨before, name, after, parameters, rfl, hblank, hname, hparameters⟩
    have hspace (c : Char) (hc : c ∈ before ++ after) : c ≠ ';' := by
      rintro rfl
      exact absurd (hblank _ hc) (by decide)
    have hmedia : (before ++ (name ++ (after ++ parameters))).takeWhile (· ≠ ';') =
        before ++ (name ++ after) := by
      have hnone : parameters.takeWhile (· ≠ ';') = [] := by
        cases parameters with
        | nil => rfl
        | cons c rest => simp [hparameters c rfl]
      rw [← List.append_assoc name, ← List.append_assoc before, List.takeWhile_append_of_pos, hnone,
        List.append_nil]
      intro c hc
      rw [decide_eq_true_eq]
      simp only [List.mem_append] at hc hspace
      rcases hc with hc | hc | hc
      · exact hspace c (.inl hc)
      · exact (hplain hname c hc).2
      · exact hspace c (.inr hc)
    rw [hmedia, (Text.trimEnd_dropWhile_eq_iff (fun c hc => (hplain hname c hc).1) (hne hname)).2
      ⟨before, after, rfl, hblank⟩, hname]

/-- A header value that names the media type of event streams: visible throughout, and the name,
in any case, between blanks, with nothing behind it but parameters. -/
structure NamesEventStream (value : Bytes) : Prop where
  visible : ∀ b ∈ value, b = 9 ∨ 0x20 ≤ b ∧ b < 0x7F
  framed : ∃ before name after parameters : List Char,
    value.map (fun b => Char.ofNat b.toNat) = before ++ (name ++ (after ++ parameters)) ∧
      (∀ c ∈ before ++ after, c = ' ' ∨ c = '\t') ∧
      name.map Char.toLower = "text/event-stream".toList ∧ ∀ c ∈ parameters.head?, c = ';'

theorem visibleText?_eq_some_iff {value : Bytes} {text : String} :
    visibleText? value = some text ↔ (∀ b ∈ value, b = 9 ∨ 0x20 ≤ b ∧ b < 0x7F) ∧
      text.toList = value.map fun b => Char.ofNat b.toNat := by
  unfold visibleText?
  split_ifs with h
  all_goals
    simp only [List.all_eq_true, Bool.or_eq_true, Bool.and_eq_true, decide_eq_true_eq] at h
  · rw [Option.some.injEq, and_iff_right h]
    exact ⟨by rintro rfl; exact String.toList_ofList, fun ht => by rw [← ht, String.ofList_toList]⟩
  · simp [h]

/-- Of the blanks, only two are visible. -/
theorem isBlank_ofNat_iff {b : UInt8} (h : b = 9 ∨ 0x20 ≤ b ∧ b < 0x7F) :
    Text.isBlank (Char.ofNat b.toNat) = true ↔
      Char.ofNat b.toNat = ' ' ∨ Char.ofNat b.toNat = '\t' := by
  have hblanks : ∀ n ∈ Text.blanks, (n = 9 ∨ 32 ≤ n ∧ n < 127) → n = 32 ∨ n = 9 := by decide
  constructor
  · intro hb
    have hlt := b.toNat_lt
    have hn : (Char.ofNat b.toNat).toNat = b.toNat := by
      rw [Char.ofNat, dif_pos (.inl (by omega))]
      rfl
    have hmem : b.toNat ∈ Text.blanks := by
      rw [← hn]
      simpa [Text.isBlank] using hb
    have hvisible : b.toNat = 9 ∨ 32 ≤ b.toNat ∧ b.toNat < 127 := by
      simpa [UInt8.le_iff_toNat_le, UInt8.lt_iff_toNat_lt, ← UInt8.toNat_inj] using h
    rcases hblanks _ hmem hvisible with h32 | h9
    · rw [h32]; exact .inl rfl
    · rw [h9]; exact .inr rfl
  · rintro (hc | hc) <;> rw [hc] <;> rfl

theorem isEventStream_iff {value : Bytes} :
    isEventStream (visibleText? value) = true ↔ NamesEventStream value := by
  have hblank {before name after parameters : List Char}
      (hchars : value.map (fun b => Char.ofNat b.toNat) = before ++ (name ++ (after ++ parameters)))
      (visible : ∀ b ∈ value, b = 9 ∨ 0x20 ≤ b ∧ b < 0x7F) :
      (∀ c ∈ before ++ after, Text.isBlank c = true) ↔
        ∀ c ∈ before ++ after, c = ' ' ∨ c = '\t' := by
    refine forall₂_congr fun c hc => ?_
    have hmem : c ∈ value.map fun b => Char.ofNat b.toNat := by
      rw [hchars]
      simp only [List.mem_append] at hc ⊢
      tauto
    obtain ⟨b, hb, rfl⟩ := List.mem_map.1 hmem
    exact isBlank_ofNat_iff (visible b hb)
  constructor
  · intro h
    obtain ⟨text, htext, h⟩ := (Option.any_eq_true _ _).1 h
    obtain ⟨visible, hchars⟩ := visibleText?_eq_some_iff.1 htext
    simp only [Text.trim, String.toList_ofList, decide_eq_true_eq, hchars] at h
    obtain ⟨before, name, after, parameters, heq, hbl, hname, hp⟩ := trim_takeWhile_iff.1 h
    exact ⟨visible, before, name, after, parameters, heq, (hblank heq visible).1 hbl, hname, hp⟩
  · rintro ⟨visible, before, name, after, parameters, heq, hbl, hname, hp⟩
    rw [isEventStream, visibleText?_eq_some_iff.2 ⟨visible, String.toList_ofList⟩, Option.any_some]
    simp only [Text.trim, String.toList_ofList, decide_eq_true_eq]
    exact trim_takeWhile_iff.2
      ⟨before, name, after, parameters, heq, (hblank heq visible).2 hbl, hname, hp⟩

/-! ## Opening -/

theorem Headers.first?_eq_head?_values (name : String) (h : Headers) :
    h.first? name = (h.values name).head? := by
  induction h with
  | nil => rfl
  | cons field rest ih =>
    obtain ⟨n, v⟩ := field
    unfold first? values at ih ⊢
    by_cases hn : n = name
    · simp [hn]
    · have hn' : (name == n) = false := beq_false_of_ne (Ne.symm hn)
      rw [List.lookup_cons, hn', List.filter_cons_of_neg (by simpa using hn)]
      exact ih

namespace HttpResponse

variable (handler : ErrorHandler) (op : Operation) (h : Handle) (r : HttpResponse)

/-- The response opens a stream of events. -/
def Accepts : Prop :=
  r.head.status = 200 ∧
    ∃ value, (r.head.headers.values "content-type").head? = some value ∧ NamesEventStream value

theorem isEventStream_contentType?_iff :
    isEventStream r.head.headers.contentType? = true ↔
      ∃ value, (r.head.headers.values "content-type").head? = some value ∧
        NamesEventStream value := by
  rw [Headers.contentType?, Headers.first?_eq_head?_values]
  cases (r.head.headers.values "content-type").head? with
  | none => simp [isEventStream]
  | some value => simp [isEventStream_iff]

/-- What is made of the body of a response that opens no stream. -/
def rejectionOf : Except Failure Bytes → Failure
  | .error fault => fault
  | .ok body => .subscriptionFraming r.head.status r.head.headers.contentType?
      (Text.Utf8.decodeLossy body)

variable {r}

theorem events_of_accepts (accepts : r.Accepts) :
    (r.events handler op h : Future σ (Except Failure EventStream)) =
      .done (.ok (EventStream.opened handler op h r)) :=
  EventStream.events_of_accepted accepts.1 (r.isEventStream_contentType?_iff.2 accepts.2)

/-- Behind the body of a response that opens no stream comes the failure, and nothing before. -/
theorem complete_events_of_not_accepts (rejected : ¬r.Accepts) (s : Session σ) :
    ((r.events handler op h).complete s).1 =
      (r.body.collect.complete s).1.map fun x => .error (r.rejectionOf x) := by
  have hcond : (decide (r.head.status = 200) && isEventStream r.head.headers.contentType?) =
      false := by
    rw [← Bool.not_eq_true, Bool.and_eq_true, decide_eq_true_eq, isEventStream_contentType?_iff]
    exact rejected
  simp only [events, hcond, Bool.false_eq_true, if_false, text, bytes, Future.complete_bind]
  rcases r.body.collect.complete s with ⟨_ | _ | body, s'⟩ <;> rfl

variable (r)

/-- **Only accepted responses open a stream**, at once and with nothing of the body read; behind
the body of any other comes the failure, and if the body does not end nothing comes. -/
theorem events_opens (s : Session σ) :
    ((∃ stream, ((r.events handler op h).complete s).1 = some (.ok stream)) ↔ r.Accepts) ∧
    (r.Accepts → (r.events handler op h : Future σ (Except Failure EventStream)) =
      .done (.ok (EventStream.opened handler op h r))) ∧
    (¬r.Accepts →
      (∀ y, ((r.events handler op h).complete s).1 = some y →
        y = .error (r.rejectionOf r.body.outcome) ∧ r.body.arrivals.Ends) ∧
      (s.deadline = none → r.body.arrivals.Ends →
        ((r.events handler op h).complete s).1 = some (.error (r.rejectionOf r.body.outcome)))) := by
  have hreads := r.body.reads_collect s
  have honly (rejected : ¬r.Accepts) (y : Except Failure EventStream)
      (hy : ((r.events handler op h).complete s).1 = some y) :
      y = .error (r.rejectionOf r.body.outcome) ∧ r.body.arrivals.Ends := by
    rw [complete_events_of_not_accepts handler op h rejected] at hy
    obtain ⟨x, hx, rfl⟩ := Option.map_eq_some_iff.1 hy
    obtain ⟨rfl, ends⟩ := hreads.only x hx
    exact ⟨rfl, ends⟩
  refine ⟨⟨fun ⟨stream, hs⟩ => ?_, fun accepts => ?_⟩, events_of_accepts handler op h,
    fun rejected => ⟨honly rejected, fun unlimited ends => ?_⟩⟩
  · by_contra rejected
    cases (honly rejected _ hs).1
  · exact ⟨_, by rw [events_of_accepts handler op h accepts]; rfl⟩
  · obtain ⟨x, hx⟩ := hreads.comes unlimited ends
    obtain ⟨rfl, -⟩ := hreads.only x hx
    rw [complete_events_of_not_accepts handler op h rejected, hx, Option.map_some]

/-- A page in two pieces, whose parameters name what its media type does not. -/
def pageResponse : HttpResponse where
  head := ⟨200, [("content-type", Text.Utf8.encode "text/html; text/event-stream")]⟩
  body := .streamed { pending :=
    [.data (Text.Utf8.encode "<p>"), .delay 5, .data (Text.Utf8.encode "busy")] }

/-- The media type in capitals, between a blank and a tab, and another one behind it. -/
def shoutedResponse : HttpResponse where
  head := ⟨200, [("content-type", Text.Utf8.encode " TEXT/Event-Stream\t; charset=utf-8"),
    ("content-type", Text.Utf8.encode "text/html")]⟩
  body := .buffered (Text.Utf8.encode "data: \x7b\x7d\n")

theorem not_accepts_pageResponse : ¬pageResponse.Accepts := fun accepts =>
  absurd (pageResponse.isEventStream_contentType?_iff.2 accepts.2) (by decide +kernel)

theorem accepts_shoutedResponse : shoutedResponse.Accepts :=
  ⟨rfl, shoutedResponse.isEventStream_contentType?_iff.1 (by decide +kernel)⟩

theorem shoutedResponse_opens :
    (shoutedResponse.events ErrorHandler.raise EventStream.onTick ⟨0⟩ :
        Future Unit (Except Failure EventStream)) =
      .done (.ok (EventStream.opened ErrorHandler.raise EventStream.onTick ⟨0⟩ shoutedResponse)) ∧
    ((pageResponse.events ErrorHandler.raise EventStream.onTick ⟨0⟩).complete
        ({ state := () } : Session Unit)).1 =
      some (.error (.subscriptionFraming 200 (some "text/html; text/event-stream") "<p>busy")) := by
  have hpage := (((events_opens ErrorHandler.raise EventStream.onTick ⟨0⟩ pageResponse
    ({ state := () } : Session Unit)).2.2 not_accepts_pageResponse).2 rfl (.inl rfl))
  refine ⟨(events_opens _ _ _ _ ({ state := () } : Session Unit)).2.1 accepts_shoutedResponse,
    hpage.trans ?_⟩
  have hbody : pageResponse.body.outcome = .ok (Text.Utf8.encode "<p>busy") :=
    congrArg Except.ok (by decide +kernel)
  have htype : pageResponse.head.headers.contentType? = some "text/html; text/event-stream" := by
    decide +kernel
  have htext : Text.Utf8.decodeLossy (Text.Utf8.encode "<p>busy") = "<p>busy" := by
    decide +kernel
  rw [hbody, rejectionOf, htype, htext]
  rfl

end HttpResponse

end GraphQLClient
