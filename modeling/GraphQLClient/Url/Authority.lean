import GraphQLClient.Url.Host
import GraphQLClient.Url.Path

/-!
Authorities: credentials, a host and a port. The default port of a scheme is left out.
-/

namespace GraphQLClient.Url

structure Authority where
  username : String := ""
  password : String := ""
  host : String
  port : Option Nat := none
  /-- What a backslash behind the port begins; it belongs to the path. -/
  rest : List Char := []

def defaultPort? (scheme : String) : Option Nat := (specialPorts.lookup scheme).join

/-- Cuts at the last `@`. -/
def cutCredentials (cs : List Char) : Option (List Char) × List Char :=
  match cs.reverse.span (· ≠ '@') with
  | (host, _ :: credentials) => (some credentials.reverse, host.reverse)
  | (_, []) => (none, cs)

/-- Cuts at the first colon. -/
def cutPassword (cs : List Char) : List Char × List Char :=
  match cs.span (· ≠ ':') with
  | (user, password) => (user, password.drop 1)

/-- Cuts at the colon before the port, which no brackets hold. -/
def cutPort (inBrackets : Bool) : List Char → List Char × Option (List Char)
  | [] => ([], none)
  | c :: rest =>
    if c = ':' && !inBrackets then ([], some rest)
    else
      let inside := if c = '[' then true else if c = ']' then false else inBrackets
      let (host, port) := cutPort inside rest
      (c :: host, port)

def port? (scheme : String) (cs : List Char) : Except UrlFault (Option Nat) :=
  if !cs.all Char.isDigit || 65535 < digitsValue 10 cs then .error .invalidPort
  else if cs.isEmpty || defaultPort? scheme = some (digitsValue 10 cs) then .ok none
  else .ok (some (digitsValue 10 cs))

/--
Reads an authority; `isAll` says that the URL ends with it. Credentials need a host behind them,
special schemes and a port do, and so does a bare `@` that is not the end of the URL.
-/
def authority (scheme : String) (isAll : Bool) (cs : List Char) : Except UrlFault Authority :=
  let (credentials, hostAndPort) := cutCredentials cs
  let (user, password) := cutPassword (credentials.getD [])
  let encode (cs : List Char) := String.ofList (percentEncode userinfoMarks cs)
  let (host, portText) := cutPort false hostAndPort
  let needsHost :=
    isSpecial scheme || portText.isSome || !user.isEmpty || !password.isEmpty ||
      credentials = some [] && !isAll
  if host.isEmpty && needsHost then .error .emptyHost
  else
    match (if isSpecial scheme then domainOrAddress host else opaqueHost host) with
    | .error e => .error e
    | .ok host =>
      let (digits, rest) := (portText.getD []).span (· ≠ '\\')
      match port? scheme digits with
      | .error e => .error e
      | .ok port => .ok { username := encode user, password := encode password, host, port, rest }

end GraphQLClient.Url
