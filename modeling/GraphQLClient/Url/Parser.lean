import GraphQLClient.Url.Authority

/-!
Reading an absolute URL. Blanks and controls around it, and tabs and line ends in it, do not count.
The special schemes have a host, and take a backslash for a slash.
-/

namespace GraphQLClient.Url

/-- The text without blanks and controls around it. -/
def trimmed (text : String) : List Char :=
  let cs := text.toList.dropWhile (·.toNat ≤ 0x20)
  (cs.reverse.dropWhile (·.toNat ≤ 0x20)).reverse

def isSchemeChar (c : Char) : Bool := c.isAlphanum || c = '+' || c = '-' || c = '.'

/-- The scheme in lower case and what follows its colon. -/
def scheme? (cs : List Char) : Option (String × List Char) :=
  match cs.span (· ≠ ':') with
  | (_, []) => none
  | (name, _ :: rest) =>
    let name := withoutBreaks name
    if name.all isSchemeChar && name.head?.any Char.isAlpha then
      some (String.ofList (name.map Char.toLower), rest)
    else none

/-- Cuts off query and fragment. -/
def cutTail (cs : List Char) : List Char × Option (List Char) × Option (List Char) :=
  let (front, fragment) :=
    match cs.span (· ≠ '#') with
    | (front, _ :: fragment) => (front, some fragment)
    | (front, []) => (front, none)
  match front.span (· ≠ '?') with
  | (path, _ :: query) => (path, some query, fragment)
  | (path, []) => (path, none, fragment)

/-! ## Files -/

/-- The host of a file, which is empty if it is the local one. -/
def fileHost (cs : List Char) : Except UrlFault String :=
  if cs.isEmpty then .ok ""
  else (domainOrAddress cs).map fun host => if host = "localhost" then "" else host

def fileAt (host : String) (pathText : List Char) : Url :=
  let (path, onDrive) := filePath pathText
  { scheme := "file", host := some (if onDrive then "" else host), path }

/--
The URL of a file. In the place of the host a drive may stand, and behind an empty host the path
keeps its slash.
-/
def fileUrl (cs : List Char) : Except UrlFault Url :=
  match cs.dropWhile isBreak with
  | [] => .ok (fileAt "" [])
  | a :: afterOne =>
    if !isSlash "file" a then .ok (fileAt "" cs)
    else
      match afterOne.dropWhile isBreak with
      | [] => .ok (fileAt "" [])
      | b :: afterTwo =>
        if !isSlash "file" b then .ok (fileAt "" afterOne)
        else
          let (hostText, path) := afterTwo.span (!isSlash "file" ·)
          let hostText := withoutBreaks hostText
          if isDrive hostText then .ok (fileAt "" afterTwo)
          else
            (fileHost hostText).map fun host =>
              if host = "" then fileAt "" path else fileAt host (path.drop 1)

/-! ## Other URLs -/

/-- Behind the slashes: authority and path; `isAll` says that neither query nor fragment follows. -/
def behindSlashes (scheme : String) (isAll : Bool) (cs : List Char) : Except UrlFault Url :=
  let (authorityText, path) := cs.span (!isSlash scheme ·)
  (authority scheme (isAll && path.isEmpty) authorityText).map fun a =>
    let path :=
      match a.rest ++ path with
      | [] => if isSpecial scheme then .segments [""] else .segments []
      | c :: rest => segmentsOf scheme (if isSlash scheme c then rest else c :: rest)
    { scheme, path
      username := a.username
      password := a.password
      host := some a.host
      port := a.port }

/-- The part of a URL between its scheme and its query. -/
def hierarchy (scheme : String) (isAll : Bool) (cs : List Char) : Except UrlFault Url :=
  if scheme = "file" then fileUrl cs
  else
    let cs := withoutBreaks cs
    if isSpecial scheme then behindSlashes scheme isAll (cs.dropWhile (isSlash scheme))
    else
      match cs with
      | '/' :: '/' :: rest => behindSlashes scheme isAll rest
      | '/' :: rest => .ok { scheme, path := segmentsOf scheme rest }
      | _ => .ok { scheme, path := .opaquePath (String.ofList (percentEncode [] cs)) }

def parse (input : String) : Except UrlFault Url :=
  match scheme? (trimmed input) with
  | none => .error .relativeWithoutBase
  | some (scheme, rest) =>
    let (front, query, fragment) := cutTail rest
    let encode (marks cs : List Char) := String.ofList (percentEncode marks (withoutBreaks cs))
    (hierarchy scheme (query.isNone && fragment.isNone) front).map fun u =>
      let marks := if isSpecial scheme then specialQueryMarks else queryMarks
      { u with query := query.map (encode marks), fragment := fragment.map (encode fragmentMarks) }

end GraphQLClient.Url
