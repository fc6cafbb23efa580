/-!
Cancellation handles. A handle is a name; whether it has fired is kept by the timeline, so all
copies of a handle agree.
-/

namespace GraphQLClient

structure Handle where
  id : Nat
  deriving DecidableEq

end GraphQLClient
