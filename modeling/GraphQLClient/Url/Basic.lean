import GraphQLClient.Text.Hex

/-!
URLs in their parts, the text made of them, and percent encoding. A path is opaque, one text that
nothing is resolved in, or a list of segments.
-/

namespace GraphQLClient

inductive UrlPath where
  | opaquePath (text : String)
  | segments (names : List String)

structure Url where
  scheme : String
  username : String := ""
  password : String := ""
  /-- The host as it is written. -/
  host : Option String := none
  port : Option Nat := none
  path : UrlPath
  query : Option String := none
  fragment : Option String := none

inductive UrlFault where
  | emptyHost
  | internationalName
  | invalidPort
  | invalidIpv4
  | invalidIpv6
  | invalidDomainCharacter
  | relativeWithoutBase

def UrlFault.message : UrlFault → String
  | .emptyHost => "empty host"
  | .internationalName => "invalid international domain name"
  | .invalidPort => "invalid port number"
  | .invalidIpv4 => "invalid IPv4 address"
  | .invalidIpv6 => "invalid IPv6 address"
  | .invalidDomainCharacter => "invalid domain character"
  | .relativeWithoutBase => "relative URL without a base"

namespace Url

/-! ## Text -/

def credentialsText (u : Url) : String :=
  if u.username = "" && u.password = "" then ""
  else u.username ++ (if u.password = "" then "" else ":" ++ u.password) ++ "@"

/-- Without a host, a path that begins with two slashes needs a dot before them. -/
def pathText (host : Option String) : UrlPath → String
  | .opaquePath t => t
  | .segments names =>
    let guard :=
      match host, names with
      | none, "" :: _ :: _ => "/."
      | _, _ => ""
    guard ++ String.join (names.map ("/" ++ ·))

def text (u : Url) : String :=
  u.scheme ++ ":" ++
    (match u.host with
      | none => ""
      | some h =>
        "//" ++ u.credentialsText ++ h ++
          (match u.port with
            | none => ""
            | some p => ":" ++ toString p)) ++
    pathText u.host u.path ++
    (match u.query with
      | none => ""
      | some q => "?" ++ q) ++
    match u.fragment with
    | none => ""
    | some f => "#" ++ f

/-- Whether the URL names a host; an empty one is none. -/
def hasHost (u : Url) : Bool := u.host.any (· ≠ "")

/-! ## Pieces -/

/-- The pieces between the separators. -/
def splitOn (sep : Char) : List Char → List (List Char)
  | [] => [[]]
  | c :: rest =>
    match splitOn sep rest with
    | [] => [[c]]
    | piece :: pieces => if c = sep then [] :: piece :: pieces else (c :: piece) :: pieces

/-! ## Percent encoding -/

def upperHexDigit (n : Nat) : Char := Char.ofNat (if n < 10 then 0x30 + n else 0x37 + n)

def percentByte (b : UInt8) : List Char :=
  ['%', upperHexDigit (b.toNat / 16), upperHexDigit (b.toNat % 16)]

def isControl (c : Char) : Bool := c.toNat < 0x20 || 0x7F ≤ c.toNat

/-- Characters outside ASCII, controls and the marks given are written as their bytes. -/
def percentEncode (marks : List Char) (cs : List Char) : List Char :=
  cs.flatMap fun c =>
    if isControl c || marks.contains c then (String.utf8EncodeChar c).flatMap percentByte else [c]

def queryMarks : List Char := [' ', '"', '#', '<', '>']
def specialQueryMarks : List Char := '\'' :: queryMarks
def fragmentMarks : List Char := [' ', '"', '<', '>', '`']
def pathMarks : List Char := '#' :: '?' :: '\x7b' :: '\x7d' :: fragmentMarks
def userinfoMarks : List Char := "/:;=@[\\]^|".toList ++ pathMarks

/-- The bytes that a percent-encoded text stands for. -/
def percentDecode : List Char → Bytes
  | [] => []
  | '%' :: a :: b :: rest =>
    match Text.Hex.value? a, Text.Hex.value? b with
    | some x, some y => UInt8.ofNat (16 * x + y) :: percentDecode rest
    | _, _ => 0x25 :: percentDecode (a :: b :: rest)
  | c :: rest => String.utf8EncodeChar c ++ percentDecode rest

/-- The text that a percent-encoded text stands for, if it is one. -/
def decodedText? (s : String) : Option String := Text.Utf8.decode? (percentDecode s.toList)

/-- Credentials are taken away as far as they can be read; those that are no text stay. -/
def withoutCredentials (u : Url) : Url :=
  match decodedText? u.username with
  | none => u
  | some name =>
    if name ≠ "" || u.password ≠ "" && (decodedText? u.password).isSome then
      { u with username := "", password := "" }
    else u

end Url

end GraphQLClient
