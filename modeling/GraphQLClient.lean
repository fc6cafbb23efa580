import GraphQLClient.Binary64.Arithmetic
import GraphQLClient.Binary64.Basic
import GraphQLClient.Binary64.Decimal
import GraphQLClient.Call.Executor
import GraphQLClient.Call.Run
import GraphQLClient.Call.Stages
import GraphQLClient.Data.Basic
import GraphQLClient.Data.Encoding
import GraphQLClient.Failure
import GraphQLClient.Future
import GraphQLClient.GraphQLError
import GraphQLClient.Handle
import GraphQLClient.Http.Headers
import GraphQLClient.Http.Status
import GraphQLClient.Json.Access
import GraphQLClient.Json.Basic
import GraphQLClient.Json.Decode
import GraphQLClient.Json.Fault
import GraphQLClient.Json.Number
import GraphQLClient.Json.Printer
import GraphQLClient.Json.Reader
import GraphQLClient.Json.Scanner
import GraphQLClient.Operation
import GraphQLClient.Request.Basic
import GraphQLClient.Request.JsonForm
import GraphQLClient.Request.MultipartForm
import GraphQLClient.Request.Strategy
import GraphQLClient.Response.Basic
import GraphQLClient.Response.Envelope
import GraphQLClient.Response.EventStream
import GraphQLClient.Response.Reading
import GraphQLClient.Response.Subscription
import GraphQLClient.Retry.Backoff
import GraphQLClient.Retry.Policy
import GraphQLClient.Text.Blank
import GraphQLClient.Text.CodePoints
import GraphQLClient.Text.Hex
import GraphQLClient.Text.Normalization
import GraphQLClient.Text.Normalization.CombiningClass
import GraphQLClient.Text.Normalization.Decomposition
import GraphQLClient.Text.Quoted
import GraphQLClient.Text.Unprintable
import GraphQLClient.Text.Utf8
import GraphQLClient.Timeline
import GraphQLClient.Trace.Event
import GraphQLClient.Transport.Http
import GraphQLClient.Transport.MediaType
import GraphQLClient.Url.Authority
import GraphQLClient.Url.Basic
import GraphQLClient.Url.Domain.Direction
import GraphQLClient.Url.Domain.Joining
import GraphQLClient.Url.Domain.Mapping
import GraphQLClient.Url.Domain.Name
import GraphQLClient.Url.Domain.Punycode
import GraphQLClient.Url.Host
import GraphQLClient.Url.Parser
import GraphQLClient.Url.Path
import GraphQLClient.Variable.Basic
import GraphQLClient.Variable.Printer
import GraphQLClient.Variable.Upload
import GraphQLClient.Proofs.Response.Lines
import GraphQLClient.Proofs.Response.EventItems
import GraphQLClient.Proofs.Response.SubscriptionHistory
import GraphQLClient.Proofs.Call.Attempts
import GraphQLClient.Proofs.Request.MultipartForm
import GraphQLClient.Proofs.Variable.Keys
import GraphQLClient.Proofs.Variable.Places
import GraphQLClient.Proofs.Request.FormPlaces
import GraphQLClient.Proofs.Future
import GraphQLClient.Proofs.Call.Departure
import GraphQLClient.Proofs.Call.Race
import GraphQLClient.Proofs.Call.Spent
import GraphQLClient.Proofs.Response.UntouchedStream
import GraphQLClient.Proofs.Call.HandleKept
import GraphQLClient.Proofs.Request.HeaderFields
import GraphQLClient.Proofs.Variable.Searches
import GraphQLClient.Proofs.Request.Strategies
import GraphQLClient.Proofs.Call.Lifecycle
import GraphQLClient.Proofs.Request.JsonBody
import GraphQLClient.Proofs.Data.Encoding
import GraphQLClient.Proofs.Data.Reencoding
import GraphQLClient.Proofs.Data.Files
import GraphQLClient.Proofs.Data.JsonImage
import GraphQLClient.Proofs.Data.JsonAgreement
import GraphQLClient.Proofs.Request.FirstPlace
import GraphQLClient.Proofs.Response.Answers
import GraphQLClient.Proofs.Retry.Backoff
import GraphQLClient.Proofs.Response.Refusals
import GraphQLClient.Proofs.Response.SingleEvent
import GraphQLClient.Proofs.Response.Silence
import GraphQLClient.Proofs.Response.Promptness
import GraphQLClient.Proofs.Response.Opening
import GraphQLClient.Proofs.Call.Pacing
import GraphQLClient.Proofs.Call.Schedule
import GraphQLClient.Proofs.Variable.History
import GraphQLClient.Proofs.Data.Faults
import GraphQLClient.Proofs.Data.Objects
import GraphQLClient.Proofs.Json.AsVariable
import GraphQLClient.Proofs.Json.TypedReading
import GraphQLClient.Proofs.Response.ErrorList
