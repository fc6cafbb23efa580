import GraphQLClient.Failure
import GraphQLClient.Proofs.Data.Encoding
import GraphQLClient.Proofs.Variable.History

/-! # The first fault in data

Describing data is a sequence of moments at which encoding may go wrong: at a
leaf, behind a key, in front of a value, behind the fields of an upload. Encoding
fails just if one of them is faulty, and then with the fault of the first one
(`toVariables_firstFault`), however deep it lies. -/

namespace GraphQLClient.Data

/-- A point in the description of data at which something may go wrong. -/
inductive Moment where
  | wideInteger (signed : Bool)
  | failing (message : String)
  /-- Behind a key. -/
  | key (key : Data)
  /-- In front of a value, with a key waiting for it or not. -/
  | value (keyWaits : Bool)
  /-- Behind the fields of an upload, with the last one called `bytes`. -/
  | upload (bytes : Option Data)

/-- What goes wrong at the moment, if nothing went wrong before. -/
def Moment.fault? : Moment → Option EncodingFault
  | .wideInteger signed => Option.some (.wideInteger signed)
  | .failing message => Option.some (.failing message)
  | .key k =>
    match k.encode with
    | .ok (.string _) | .ok (.number _) | .ok (.bool _) | .error _ => Option.none
    | .ok v => Option.some (.keyNotScalar v)
  | .value keyWaits => if keyWaits then Option.none else Option.some .valueWithoutKey
  | .upload Option.none => Option.some .uploadWithoutBytes
  | .upload (Option.some d) =>
    match d.encode with
    | .ok (.upload _) | .error _ => Option.none
    | .ok _ => Option.some .uploadWithoutBytes

/-- The last member of the name. -/
def lastMember? (name : String) : List (String × Data) → Option Data
  | [] => Option.none
  | (k, d) :: rest => (lastMember? name rest).or (if k = name then Option.some d else Option.none)

mutual

/-- The moments in the order in which data is described. -/
def moments : Data → List Moment
  | .wideInteger signed => [.wideInteger signed]
  | .failing message => [.failing message]
  | .some d | .newtypeStruct d | .newtypeVariant _ d => d.moments
  | .sequence items | .tupleVariant _ items => itemMoments items
  | .map calls => callMoments false calls
  | .record name fields =>
    fieldMoments fields ++
      if name = uploadName then [.upload (lastMember? "bytes" (fieldMembers fields))] else []
  | .recordVariant _ fields => fieldMoments fields
  | _ => []

def itemMoments : List Data → List Moment
  | [] => []
  | d :: rest => d.moments ++ itemMoments rest

def callMoments (keyWaits : Bool) : List MapCall → List Moment
  | [] => []
  | .key k :: rest => k.moments ++ .key k :: callMoments true rest
  | .value d :: rest => .value keyWaits :: (d.moments ++ callMoments false rest)

def fieldMoments : List (String × Option Data) → List Moment
  | [] => []
  | (_, Option.none) :: rest => fieldMoments rest
  | (_, Option.some d) :: rest => d.moments ++ fieldMoments rest

end

def firstFault? (ms : List Moment) : Option EncodingFault := ms.findSome? Moment.fault?

/-- The fault that a result is. -/
def faultOf? {α : Type} : Except EncodingFault α → Option EncodingFault
  | .error fault => Option.some fault
  | .ok _ => Option.none

section Results

variable {α β : Type}

@[simp]
theorem faultOf?_error (fault : EncodingFault) :
    faultOf? (.error fault : Except EncodingFault α) = Option.some fault := rfl

@[simp]
theorem faultOf?_ok (a : α) : faultOf? (.ok a) = Option.none := rfl

@[simp]
theorem faultOf?_map (x : Except EncodingFault α) (f : α → β) :
    faultOf? (x.map f) = faultOf? x := by
  cases x <;> rfl

@[simp]
theorem firstFault?_append (ms later : List Moment) :
    firstFault? (ms ++ later) = (firstFault? ms).or (firstFault? later) := List.findSome?_append

@[simp]
theorem firstFault?_cons (m : Moment) (ms : List Moment) :
    firstFault? (m :: ms) = m.fault?.or (firstFault? ms) := by
  rw [firstFault?, List.findSome?_cons]
  cases m.fault? <;> rfl

end Results

/-! ## Compounds -/

theorem faultOf?_encodeItems {items : List Data}
    (h : ∀ p ∈ items, faultOf? p.encode = firstFault? p.moments) :
    faultOf? (encodeItems items) = firstFault? (itemMoments items) := by
  induction items with
  | nil => rfl
  | cons d rest ih =>
    obtain ⟨hd, hrest⟩ := List.forall_mem_cons.1 h
    rw [itemMoments, firstFault?_append, ← hd, encodeItems]
    cases d.encode with
    | error fault => rfl
    | ok v => rw [faultOf?_map, ih hrest, faultOf?_ok, Option.none_or]

/-- A key that was encoded is faulty if what came of it has no text. -/
theorem faultOf?_keyText {k : Data} {v : Variable} (h : k.encode = .ok v) :
    faultOf? (keyText v) = (Moment.key k).fault? := by
  rw [Moment.fault?, h]
  cases v <;> rfl

theorem faultOf?_encodeCalls {pending : Option String} {acc : VariableMap} {calls : List MapCall}
    (h : ∀ p ∈ calls.map MapCall.data, faultOf? p.encode = firstFault? p.moments) :
    faultOf? (encodeCalls pending acc calls) =
      firstFault? (callMoments pending.isSome calls) := by
  induction calls generalizing pending acc with
  | nil => rfl
  | cons call rest ih =>
    obtain ⟨hd, hrest⟩ := List.forall_mem_cons.1 h
    cases call with
    | key k =>
      have hd : faultOf? k.encode = firstFault? k.moments := hd
      rw [callMoments, firstFault?_append, firstFault?_cons, ← hd, encodeCalls]
      cases hk : k.encode with
      | error fault => rfl
      | ok v =>
        have hkey := faultOf?_keyText hk
        cases hname : keyText v with
        | error fault =>
          rw [hname] at hkey
          simp [hname, ← hkey]
        | ok name =>
          rw [hname] at hkey
          simp [hname, ← hkey, ih hrest]
    | value d =>
      have hd : faultOf? d.encode = firstFault? d.moments := hd
      rw [callMoments, firstFault?_cons, firstFault?_append, ← hd]
      cases pending with
      | none => rfl
      | some name =>
        rw [encodeCalls]
        cases hv : d.encode with
        | error fault => rfl
        | ok v => simp [ih hrest, Moment.fault?]

theorem faultOf?_encodeFields {acc : VariableMap} {fields : List (String × Option Data)}
    (h : ∀ p ∈ fields.filterMap (·.2), faultOf? p.encode = firstFault? p.moments) :
    faultOf? (encodeFields acc fields) = firstFault? (fieldMoments fields) := by
  induction fields generalizing acc with
  | nil => rfl
  | cons field rest ih =>
    obtain ⟨name, _ | d⟩ := field
    · exact ih h
    · obtain ⟨hd, hrest⟩ := List.forall_mem_cons.1 h
      rw [fieldMoments, firstFault?_append, ← hd, encodeFields]
      cases hv : d.encode with
      | error fault => simp
      | ok v => simp [ih hrest]

/-! ## Uploads -/

/-- A key has what its last member was encoded as, or what it had before. -/
theorem BuildsMap.find? {acc m : VariableMap} {members : List (String × Data)}
    (h : BuildsMap acc members m) (key : String) :
    match lastMember? key members with
    | Option.some d => ∃ v, d.encode = .ok v ∧ VariableMap.find? key m = Option.some v
    | Option.none => VariableMap.find? key m = VariableMap.find? key acc := by
  induction members generalizing acc with
  | nil => rw [buildsMap_nil.1 h]; rfl
  | cons x rest ih =>
    obtain ⟨v, hv, hrest⟩ := buildsMap_cons.1 h
    have ih := ih hrest
    cases hlast : lastMember? key rest with
    | some d => simpa [lastMember?, hlast] using ih
    | none =>
      rw [hlast, VariableMap.find?_insert] at ih
      by_cases hk : x.1 = key
      · simpa [lastMember?, hlast, hk] using ⟨v, hv, by simpa [hk] using ih⟩
      · simpa [lastMember?, hlast, hk] using ih

/-- Behind its fields an upload is faulty if the last one called `bytes` is. -/
theorem faultOf?_uploadOfFields {fields : List (String × Option Data)} {m : VariableMap}
    (h : encodeFields [] fields = .ok m) :
    faultOf? (uploadOfFields m) =
      (Moment.upload (lastMember? "bytes" (fieldMembers fields))).fault? := by
  have hbytes := (encodeFields_eq_ok_iff.1 h).find? "bytes"
  unfold uploadOfFields
  cases hlast : lastMember? "bytes" (fieldMembers fields) with
  | none =>
    rw [hlast] at hbytes
    rw [hbytes]
    rfl
  | some d =>
    rw [hlast] at hbytes
    obtain ⟨v, hv, hfind⟩ := hbytes
    rw [hfind, Moment.fault?, hv]
    cases v <;> rfl

/-! ## All data -/

/-- **Encoding fails with the first fault**, and only then. -/
theorem faultOf?_encode (d : Data) : faultOf? d.encode = firstFault? d.moments := by
  induction d using partInduction with
  | node d ih =>
    cases d with
    | wideInteger | failing => rfl
    | some d | newtypeStruct d => exact ih d List.mem_cons_self
    | newtypeVariant variant d =>
      rw [encode, faultOf?_map]
      exact ih d List.mem_cons_self
    | sequence items | tupleVariant variant items =>
      rw [encode, faultOf?_map]
      exact faultOf?_encodeItems ih
    | map calls =>
      rw [encode, faultOf?_map]
      exact faultOf?_encodeCalls ih
    | record name fields =>
      have hfields : faultOf? (encodeFields [] fields) = firstFault? (fieldMoments fields) :=
        faultOf?_encodeFields ih
      rw [encode, moments, firstFault?_append, ← hfields]
      cases hm : encodeFields [] fields with
      | error fault => rfl
      | ok m =>
        by_cases hname : name = uploadName
        · simp [hname, faultOf?_uploadOfFields hm, firstFault?]
        · simp [hname, firstFault?]
    | recordVariant variant fields =>
      rw [encode, faultOf?_map]
      exact faultOf?_encodeFields ih
    | _ => rfl

theorem toVariables_eq_error_iff {d : Data} {failure : Failure} :
    d.toVariables = .error failure ↔
      ∃ fault, faultOf? d.encode = Option.some fault ∧
        failure = .serialization (.encoding fault) := by
  unfold toVariables
  cases d.encode <;> simp [Except.mapError, eq_comm]

/-- A float that is not finite makes no key. -/
theorem fault?_key_of_not_finite {k : Data} {x : Binary64} (hk : k.encode = .ok (floatVariable x))
    (hx : x.isFinite = false) : (Moment.key k).fault? = Option.some (.keyNotScalar .null) := by
  simp [Moment.fault?, hk, floatVariable, Finite64.ofBinary64?, hx]

/-- **Data has no variables just if a moment of its description is faulty**, and what is reported
then is the first fault. A float that is not finite is a faulty key. -/
theorem toVariables_firstFault (d : Data) :
    (∀ failure, d.toVariables = .error failure ↔
      ∃ before m later fault, d.moments = before ++ m :: later ∧
        (∀ e ∈ before, e.fault? = Option.none) ∧ m.fault? = Option.some fault ∧
        failure = .serialization (.encoding fault) ∧
        failure.message = "serialization error: " ++ fault.message) ∧
      ((∃ v, d.toVariables = .ok v) ↔ ∀ m ∈ d.moments, m.fault? = Option.none) ∧
      (∀ x : Binary64, x.isFinite = false →
        (Moment.key (.float x)).fault? = Option.some (.keyNotScalar .null)) ∧
      ∀ x : Binary64, x.toSingle.isFinite = false →
        (Moment.key (.single x)).fault? = Option.some (.keyNotScalar .null) := by
  refine ⟨?reported, ?succeeds, fun x hx => fault?_key_of_not_finite rfl hx,
    fun x hx => fault?_key_of_not_finite rfl hx⟩
  case reported =>
    intro failure
    rw [toVariables_eq_error_iff]
    constructor
    · rintro ⟨fault, hfault, rfl⟩
      rw [faultOf?_encode, firstFault?, List.findSome?_eq_some_iff] at hfault
      obtain ⟨before, m, later, hmoments, hm, hbefore⟩ := hfault
      exact ⟨before, m, later, fault, hmoments, hbefore, hm, rfl, rfl⟩
    · rintro ⟨before, m, later, fault, hmoments, hbefore, hm, rfl, -⟩
      refine ⟨fault, ?_, rfl⟩
      rw [faultOf?_encode, firstFault?, List.findSome?_eq_some_iff]
      exact ⟨before, m, later, hmoments, hm, hbefore⟩
  case succeeds =>
    rw [← List.findSome?_eq_none_iff]
    show _ ↔ firstFault? d.moments = Option.none
    rw [← faultOf?_encode, toVariables]
    cases d.encode <;> simp [Except.mapError]

end GraphQLClient.Data
