import GraphQLClient.Trace.Event

/-!
The envelope of a GraphQL answer, its data and its errors, and what is made of them: without errors
the data, or null if there is none; with errors what an error handler decides.
-/

namespace GraphQLClient

/-- Data and errors; a list of errors that is null or empty counts as none. -/
structure Envelope where
  data : Option Json := none
  errors : List GraphQLError := []

namespace Envelope

open Json (Reader)

structure Draft where
  data : Option (Option Json) := none
  errors : Option (Option (List GraphQLError)) := none

def shape : Reader.Shape Draft Envelope where
  name := "Envelope"
  start := {}
  fields :=
    [.of "data" false (Reader.optional Reader.value) (·.data) fun d v => { d with data := some v },
      .of "errors" false (Reader.optional (Reader.list GraphQLError.reader)) (·.errors)
        fun d v => { d with errors := some v }]
  finish d := .ok { data := d.data.getD none, errors := (d.errors.getD none).getD [] }

def read (input : Bytes) : Except Json.Fault Envelope := (Reader.record shape).run input

end Envelope

/-- Decides on errors and the data that came with them, and says what the log should hold. -/
abbrev ErrorHandler :=
  Operation → List GraphQLError → Option Json → Except Failure Json × List Notice

namespace ErrorHandler

/-- Fails whenever there are errors; the data goes with the failure. -/
def raise : ErrorHandler := fun _ errors data => (.error (.graphQL errors data), [])

/-- Goes on with the data if it is not null. -/
def acceptPartialData : ErrorHandler := fun op errors data =>
  match data with
  | some d =>
    if d.isNull then raise op errors data
    else (.ok d, [.partialData op.name errors.length])
  | none => raise op errors data

/-- Decoding shows nothing of the handler that it uses. -/
def debugText (_ : ErrorHandler) : String := "DefaultParser \x7b .. \x7d"

end ErrorHandler

/-- The data to go on with. -/
def Envelope.resolve (e : Envelope) (handler : ErrorHandler) (op : Operation) :
    Except Failure Json × List Notice :=
  if e.errors.isEmpty then (.ok (e.data.getD .null), []) else handler op e.errors e.data

end GraphQLClient
