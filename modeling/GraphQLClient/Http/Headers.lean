import GraphQLClient.Text.Utf8

/-!
Header fields of requests and responses: pairs of a name in lower case and a value of bytes, where a
name may stand several times. `insert` gives a name one value in its first place; `append` adds a
value behind the others of its name.
-/

namespace GraphQLClient

abbrev Headers := List (String × Bytes)

/-- Letters, digits and these marks make a token. -/
def tokenMarks : List Char := "!#$%&'*+-.^_`|~".toList

def isTokenChar (c : Char) : Bool := c.isAlphanum || tokenMarks.contains c

def headerNameLimit : Nat := 65535

/-- The name in lower case, if the text is a token of a length allowed. -/
def headerName? (text : String) : Option String :=
  let cs := text.toList
  if !cs.isEmpty && cs.all isTokenChar && cs.length ≤ headerNameLimit then
    some (String.ofList (cs.map Char.toLower))
  else none

/-- A header value has no control characters but the tab. -/
def isHeaderValue (value : Bytes) : Bool :=
  value.all fun b => b = 9 || 0x20 ≤ b && b ≠ 0x7F

/-- A value as text, if it has only visible ASCII, blanks and tabs. -/
def visibleText? (value : Bytes) : Option String :=
  if value.all fun b => b = 9 || 0x20 ≤ b && b < 0x7F then
    some (String.ofList (value.map fun b => Char.ofNat b.toNat))
  else none

namespace Headers

def values (name : String) (h : Headers) : List Bytes :=
  (h.filter (·.1 = name)).map (·.2)

def first? (name : String) (h : Headers) : Option Bytes := h.lookup name

def remove (name : String) (h : Headers) : Headers := h.filter (·.1 ≠ name)

/-- The one value of a name from now on, in the place of the first that it had. -/
def insert (name : String) (value : Bytes) : Headers → Headers
  | [] => [(name, value)]
  | (n, v) :: rest =>
    if n = name then (name, value) :: remove name rest else (n, v) :: insert name value rest

/-- A further value of a name, behind the last one that it has. -/
def append (name : String) (value : Bytes) : Headers → Headers
  | [] => [(name, value)]
  | (n, v) :: rest =>
    if n = name && !(rest.any (·.1 = name)) then (n, v) :: (name, value) :: rest
    else (n, v) :: append name value rest

/-- The fields in the order of their names, those of one name as they stand. -/
def sorted (h : Headers) : Headers := h.mergeSort fun a b => a.1 ≤ b.1

/-- The media type that the fields announce, if it is visible text. -/
def contentType? (h : Headers) : Option String := (h.first? "content-type").bind visibleText?

end Headers

end GraphQLClient
