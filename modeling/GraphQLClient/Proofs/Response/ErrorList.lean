import GraphQLClient.Proofs.Json.TypedReading
import GraphQLClient.Response.EventStream
import GraphQLClient.Response.Reading

/-! # Errors in the message of a failure

A call that fails with the errors of a server says so in a message that ends in
these errors, printed as JSON. Printing leaves out what is empty or absent, and
reading puts the same there again: whatever list of errors came out of a body is
found in the message (`Envelope.errors_readBack`). The errors are handled as the
variables that have their texts. -/

namespace GraphQLClient

open Json Json.Reader

/-! ## Errors as variables -/

def PathSegment.asVariable : PathSegment → Variable
  | .field name => .string name
  | .index i => .number (.ofUInt64 i)

def Location.asVariable (l : Location) : Variable :=
  .object [("line", .number (.integer (wordInteger l.line))),
    ("column", .number (.integer (wordInteger l.column)))]

namespace GraphQLError

def locationMembers (e : GraphQLError) : List (String × Variable) :=
  if e.locations.isEmpty then [] else [("locations", .list (e.locations.map (·.asVariable)))]

def pathMembers (e : GraphQLError) : List (String × Variable) :=
  match e.path with
  | none => []
  | some p => [("path", .list (p.map (·.asVariable)))]

def extensionMembers (e : GraphQLError) : List (String × Variable) :=
  match e.extensions with
  | none => []
  | some x => [("extensions", .ofJson x)]

def asVariable (e : GraphQLError) : Variable :=
  .object ([("message", .string e.message)] ++ e.locationMembers ++ e.pathMembers ++
    e.extensionMembers)

/-- The extensions are as they may be read with so much room. -/
def Fits (room : Nat) (e : GraphQLError) : Prop :=
  ∀ x ∈ e.extensions, x ≠ .null ∧ Canonical room x

/-- All doubles in the extensions are read back from texts of their own. -/
def DoublesReadBack (e : GraphQLError) : Prop :=
  ∀ x ∈ e.extensions, ∀ y ∈ x.doubles, ReadsBack (.float y)

instance (e : GraphQLError) : Decidable e.DoublesReadBack :=
  inferInstanceAs (Decidable (∀ x ∈ e.extensions, ∀ y ∈ x.doubles, ReadsBack (.float y)))

end GraphQLError

/-! ## Text -/

theorem text_whole {n : Integer64} {m : Nat} (hn : n.val = m) :
    (Variable.number (.integer n)).text = toString m := by
  rw [Variable.text, Variable.chars, String.ofList_toList, Number.text, hn]
  rfl

theorem PathSegment.json_eq (s : PathSegment) : s.json = s.asVariable.text := by
  cases s with
  | field name => rfl
  | index i => exact (text_whole rfl).symm

theorem Location.json_eq (l : Location) : l.json = l.asVariable.text := by
  rw [Location.asVariable, ← Variable.objectText_map_text, List.map_cons, List.map_cons,
    List.map_nil, text_whole (m := l.line.toNat) rfl, text_whole (m := l.column.toNat) rfl]
  rfl

namespace GraphQLError

variable {e : GraphQLError} {room : Nat}

/-- The text of an error is that of its variable. -/
theorem json_eq (h : e.Fits room) : e.json = e.asVariable.text := by
  have hlocations : Json.arrayText (e.locations.map (·.json)) =
      (Variable.list (e.locations.map (·.asVariable))).text := by
    rw [← Variable.arrayText_map_text, List.map_map]
    exact congrArg Json.arrayText (List.map_congr_left fun l _ => l.json_eq)
  have hpath (p : List PathSegment) : Json.arrayText (p.map (·.json)) =
      (Variable.list (p.map (·.asVariable))).text := by
    rw [← Variable.arrayText_map_text, List.map_map]
    exact congrArg Json.arrayText (List.map_congr_left fun s _ => s.json_eq)
  rw [asVariable, ← Variable.objectText_map_text, json]
  congr 1
  simp only [List.map_append]
  congr 1
  · congr 1
    · congr 1
      unfold locationMembers
      split_ifs
      · rfl
      · rw [hlocations]
        rfl
    · unfold pathMembers
      cases e.path with
      | none => rfl
      | some p => simp [hpath]
  · unfold extensionMembers
    cases hx : e.extensions with
    | none => rfl
    | some x => simp [(h x hx).2.text_ofJson]

theorem listJson_eq {errors : List GraphQLError} (h : ∀ e ∈ errors, e.Fits room) :
    listJson errors = (Variable.list (errors.map (·.asVariable))).text := by
  rw [← Variable.arrayText_map_text, List.map_map]
  exact congrArg Json.arrayText (List.map_congr_left fun e he => json_eq (h e he))

end GraphQLError

/-! ## What may be read -/

theorem yields_any {α : Type} {reader : Reader α} {room : Nat} :
    Yields reader room fun _ => True := fun _ _ _ _ => trivial

/-- **Extensions that are read are never null** and fit the room there was. -/
theorem GraphQLError.yields_reader {room : Nat} :
    Yields reader (room + 1) (Fits room) := by
  have hkeeps : Keeps shape room fun d => ∀ o ∈ d.extensions, ∀ x ∈ o,
      x ≠ .null ∧ Canonical room x := by
    refine ⟨by simp [shape], fun f hf d hd => ?_⟩
    simp only [shape, List.mem_cons, List.not_mem_nil, or_false] at hf
    rcases hf with rfl | rfl | rfl | rfl
    · exact yields_field yields_any fun _ _ => hd
    · exact yields_field yields_any fun _ _ => hd
    · exact yields_field yields_any fun _ _ => hd
    · exact yields_field yields_optional_value fun o ho => by simpa using ho
  refine yields_record hkeeps fun d e hd he x hx => ?_
  obtain ⟨message, -, rfl⟩ := map_eq_ok_iff.1 he
  cases hextensions : d.extensions with
  | none => simp [hextensions] at hx
  | some o => exact hd o hextensions x (by simpa [hextensions] using hx)

/-- Three containers are open around the extensions in an envelope. -/
theorem Envelope.fits_of_read {body : Bytes} {env : Envelope} (h : Envelope.read body = .ok env) :
    ∀ e ∈ env.errors, e.Fits 124 := by
  have hkeeps : Keeps shape 126 fun d => ∀ o ∈ d.errors, ∀ errors ∈ o, ∀ e ∈ errors,
      GraphQLError.Fits 124 e := by
    refine ⟨by simp [shape], fun f hf d hd => ?_⟩
    simp only [shape, List.mem_cons, List.not_mem_nil, or_false] at hf
    rcases hf with rfl | rfl
    · exact yields_field yields_any fun _ _ => hd
    · exact yields_field (yields_optional (yields_list GraphQLError.yields_reader))
        fun o ho => by simpa using ho
  have hyields : Yields (Reader.record shape) (126 + 1) fun env =>
      ∀ e ∈ env.errors, e.Fits 124 := by
    refine yields_record hkeeps fun d env hd henv => ?_
    cases henv
    cases herrors : d.errors with
    | none => simp
    | some o =>
      cases o with
      | none => simp
      | some errors => exact hd (some errors) herrors errors rfl
  exact hyields.run h

/-! ## Reading the text -/

theorem PathSegment.legible (s : PathSegment) : s.asVariable.Legible := by
  cases s with
  | field name => exact .string name
  | index i => exact .leaf rfl (restored_integer _)

theorem PathSegment.ofJson?_spelled (s : PathSegment) :
    PathSegment.ofJson? s.asVariable.spelled = some s := by
  cases s with
  | field name => rfl
  | index i =>
    have hword : UInt64.ofNat (Int.toNat (Integer64.ofUInt64 i).val) = i := UInt64.ofNat_toNat
    have hnat : 0 ≤ (Integer64.ofUInt64 i).val := Int.natCast_nonneg _
    simp only [PathSegment.asVariable, Number.ofUInt64, Variable.spelled, PathSegment.ofJson?,
      if_pos hnat, hword]

theorem PathSegment.reads {room : Nat} (s : PathSegment) :
    Reads PathSegment.reader room s.asVariable s := by
  intro rest hd
  have hnesting : s.asVariable.nesting ≤ room := by
    cases s <;> exact Nat.zero_le room
  rw [PathSegment.reader, reads_value s.legible hnesting rest hd]
  simp only [s.ofJson?_spelled]

theorem Location.legible (l : Location) : l.asVariable.Legible := by
  refine .object fun m hm => ?_
  simp only [List.mem_cons, List.not_mem_nil, or_false] at hm
  rcases hm with rfl | rfl
  · exact .leaf rfl (restored_integer _)
  · exact .leaf rfl (restored_integer _)

theorem Location.reads {room : Nat} (l : Location) :
    Reads (Reader.record Location.shape) (room + 1) l.asVariable l := by
  refine reads_record (t := ⟨some l.line, some l.column⟩) ?_ rfl
  refine .cons rfl rfl (reads_field (reads_word32 l.line) _) ?_
  exact .cons rfl rfl (reads_field (reads_word32 l.column) _) (.nil _)

namespace GraphQLError

variable {e : GraphQLError} {room inner : Nat}

theorem legible (h : e.Fits inner) (hd : e.DoublesReadBack) : e.asVariable.Legible := by
  refine .object fun m hm => ?_
  simp only [List.mem_append, List.mem_singleton] at hm
  rcases hm with ((rfl | hm) | hm) | hm
  · exact .string e.message
  · unfold locationMembers at hm
    split_ifs at hm
    · cases hm
    · rw [List.mem_singleton.1 hm]
      refine .list fun v hv => ?_
      obtain ⟨l, -, rfl⟩ := List.mem_map.1 hv
      exact l.legible
  · unfold pathMembers at hm
    cases hp : e.path with
    | none => simp [hp] at hm
    | some p =>
      simp only [hp, List.mem_singleton] at hm
      rw [hm]
      refine .list fun v hv => ?_
      obtain ⟨s, -, rfl⟩ := List.mem_map.1 hv
      exact s.legible
  · unfold extensionMembers at hm
    cases hx : e.extensions with
    | none => simp [hx] at hm
    | some x =>
      simp only [hx, List.mem_singleton] at hm
      rw [hm]
      exact (h x hx).2.legible (hd x hx)

/-- Whatever is absent from the text is absent from what is read. -/
theorem fills_locations (d : Draft) (hd : d.locations = none) :
    Fills shape (room + 2) d e.locationMembers
      { d with locations := if e.locations.isEmpty then none else some e.locations } := by
  unfold locationMembers
  split_ifs
  · rw [← hd]
    exact .nil d
  · refine .cons rfl (by simp [Reader.Field.of, hd]) (reads_field (reads_list ?_) d) (.nil _)
    exact forall₂_map fun l _ => ⟨l.legible, l.reads⟩

theorem fills_path (d : Draft) (hd : d.path = none) :
    Fills shape (room + 2) d e.pathMembers { d with path := e.path.map some } := by
  unfold pathMembers
  cases hp : e.path with
  | none =>
    rw [Option.map_none, ← hd]
    exact .nil d
  | some p =>
    have hlegible : (Variable.list (p.map (·.asVariable))).Legible := by
      refine .list fun v hv => ?_
      obtain ⟨s, -, rfl⟩ := List.mem_map.1 hv
      exact s.legible
    refine .cons rfl (by simp [Reader.Field.of, hd])
      (reads_field (reads_optional hlegible (by simp) (reads_list ?_)) d) (.nil _)
    exact forall₂_map fun s _ => ⟨s.legible, s.reads⟩

theorem fills_extensions (h : e.Fits inner) (hroom : inner ≤ room) (hd : e.DoublesReadBack)
    (d : Draft) (hunset : d.extensions = none) :
    Fills shape room d e.extensionMembers { d with extensions := e.extensions.map some } := by
  unfold extensionMembers
  cases hx : e.extensions with
  | none =>
    rw [Option.map_none, ← hunset]
    exact .nil d
  | some x =>
    obtain ⟨hnull, hcanonical⟩ := h x hx
    have hlegible := hcanonical.legible (hd x hx)
    have hreads := reads_value hlegible (hcanonical.nesting_ofJson.trans hroom)
    rw [hcanonical.spelled_ofJson] at hreads
    have hne : Variable.ofJson x ≠ .null := by
      intro he
      cases x <;> simp [Variable.ofJson] at he hnull
    exact .cons rfl (by simp [Reader.Field.of, hunset])
      (reads_field (reads_optional hlegible hne hreads) d) (.nil _)

/-- **The text of an error is read as the error**, absent members and all. -/
theorem reads (h : e.Fits inner) (hroom : inner ≤ room + 2) (hd : e.DoublesReadBack) :
    Reads reader (room + 3) e.asVariable e := by
  have hmessage : Fills shape (room + 2) {} [("message", .string e.message)]
      { message := some e.message } :=
    .cons rfl rfl (reads_field (reads_string e.message) _) (.nil _)
  refine reads_record (((hmessage.append (fills_locations _ rfl)).append
    (fills_path _ rfl)).append (fills_extensions h hroom hd _ rfl)) ?_
  have hlocations : (if e.locations.isEmpty then none else some e.locations).getD [] =
      e.locations := by
    cases e.locations <;> rfl
  have hpath : (e.path.map some).getD none = e.path := by
    cases e.path <;> rfl
  have hextensions : (e.extensions.map some).getD none = e.extensions := by
    cases e.extensions <;> rfl
  simp only [shape, need, Except.map, hlocations, hpath, hextensions]

end GraphQLError

/-! ## Messages -/

/-- **The message of a failure holds the errors of the server**, printed so that they are read back
as they were, if the doubles in their extensions are. -/
theorem Envelope.errors_readBack {body : Bytes} {env : Envelope}
    (h : Envelope.read body = .ok env) (hne : env.errors ≠ [])
    (hdoubles : ∀ e ∈ env.errors, e.DoublesReadBack) :
    ∃ text, (Reader.list GraphQLError.reader).run (Text.Utf8.encode text) = .ok env.errors ∧
      (∀ data, (Failure.graphQL env.errors data).message = "GraphQL errors: " ++ text) ∧
      (∀ op status, HttpResponse.resolve .raise op status body =
        (.error (.graphQL env.errors env.data), [])) ∧
      ∀ op payload, Text.Utf8.encode (Text.trim payload) = body →
        EventStream.decode .raise op payload = (.error (.graphQL env.errors env.data), []) := by
  have hfits := Envelope.fits_of_read h
  have hresolve (op : Operation) :
      env.resolve .raise op = (.error (.graphQL env.errors env.data), []) := by
    simp [Envelope.resolve, hne, ErrorHandler.raise]
  have hreads : Reads (Reader.list GraphQLError.reader) (126 + 1)
      (.list (env.errors.map (·.asVariable))) env.errors := by
    refine reads_list (forall₂_map fun e he => ⟨?_, ?_⟩)
    · exact GraphQLError.legible (hfits e he) (hdoubles e he)
    · exact GraphQLError.reads (hfits e he) (by decide) (hdoubles e he)
  refine ⟨GraphQLError.listJson env.errors, ?_, fun data => rfl, fun op status => ?_,
    fun op payload hpayload => ?_⟩
  · rw [GraphQLError.listJson_eq hfits]
    exact hreads.run_text
  · simp only [HttpResponse.resolve, h, hresolve]
  · simp only [EventStream.decode, hpayload, h, hresolve]

/-- An empty path and one of all kinds of segments, an absent one and one that is null, a location,
a double in the extensions, and extensions that are null. -/
def mixedBody : Bytes := Text.Utf8.encode <|
  "\x7b\"data\":null,\"errors\":[\x7b\"message\":\"no \\\"user\\\"\",\"locations\":[\x7b\"line\":2," ++
  "\"column\":7\x7d],\"path\":[],\"extensions\":\x7b\"cost\":0.5,\"code\":null\x7d\x7d," ++
  "\x7b\"path\":[\"user\",0,\"name\"],\"message\":\"é\",\"extensions\":null\x7d," ++
  "\x7b\"message\":\"late\",\"locations\":[],\"path\":null\x7d]\x7d"

theorem errors_readBack_mixedBody :
    ∃ env text, Envelope.read mixedBody = .ok env ∧
      env.errors.map (·.path) = [some [], some [.field "user", .index 0, .field "name"], none] ∧
      (∀ e ∈ env.errors, e.DoublesReadBack) ∧
      (Reader.list GraphQLError.reader).run (Text.Utf8.encode text) = .ok env.errors ∧
      ∀ data, (Failure.graphQL env.errors data).message = "GraphQL errors: " ++ text := by
  have hcheck : (match Envelope.read mixedBody with
      | .ok env => decide (env.errors.map (·.path) =
          [some [], some [.field "user", .index 0, .field "name"], none] ∧
          ∀ e ∈ env.errors, e.DoublesReadBack)
      | .error _ => false) = true := by decide +kernel
  cases henv : Envelope.read mixedBody with
  | error fault => simp [henv] at hcheck
  | ok env =>
    rw [henv] at hcheck
    obtain ⟨hpaths, hdoubles⟩ := of_decide_eq_true hcheck
    have hne : env.errors ≠ [] := fun hnil => by simp [hnil] at hpaths
    obtain ⟨text, hread, hmessage, -⟩ := Envelope.errors_readBack henv hne hdoubles
    exact ⟨env, text, rfl, hpaths, hdoubles, hread, hmessage⟩

end GraphQLClient
