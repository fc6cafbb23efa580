import GraphQLClient.Url.Basic

/-!
Paths in segments. A segment of one dot stands for nothing and one of two dots takes the segment
before it away, unless that is a drive. A drive at the beginning of a file's path is written with a
colon, and the path then belongs to no host.
-/

namespace GraphQLClient.Url

def specialPorts : List (String × Option Nat) :=
  [("http", some 80), ("https", some 443), ("ws", some 80), ("wss", some 443), ("ftp", some 21),
    ("file", none)]

/-- Special schemes take a backslash for a slash, and their URLs have a host. -/
def isSpecial (scheme : String) : Bool := (specialPorts.lookup scheme).isSome

def isSlash (scheme : String) (c : Char) : Bool := c = '/' || c = '\\' && isSpecial scheme

/-- Tabs and line ends, which do not count. -/
def isBreak (c : Char) : Bool := c = '\t' || c = '\n' || c = '\r'

def withoutBreaks (cs : List Char) : List Char := cs.filter (!isBreak ·)

/-! ## Segments -/

def isSingleDot (s : List Char) : Bool :=
  let s := String.ofList (s.map Char.toLower)
  s = "." || s = "%2e"

def isDoubleDot (s : List Char) : Bool :=
  let s := String.ofList (s.map Char.toLower)
  s = ".." || s = ".%2e" || s = "%2e." || s = "%2e%2e"

def isDrive : List Char → Bool
  | [c, d] => c.isAlpha && (d = ':' || d = '|')
  | _ => false

/-- Whether a segment is a drive, up to a backslash that is no slash of its scheme. -/
def beginsWithDrive : List Char → Bool
  | c :: d :: rest => isDrive [c, d] && rest.head?.all (· = '\\')
  | _ => false

def encodeSegment (s : List Char) : List Char := percentEncode pathMarks (withoutBreaks s)

/-- A drive with its colon that a break parts from the rest of its segment, and that rest. -/
def detachedDrive? (s : List Char) : Option (List Char × List Char) :=
  match s.dropWhile isBreak with
  | [] => none
  | c :: rest =>
    match rest.dropWhile isBreak with
    | ':' :: b :: rest =>
      if isDrive [c, ':'] && isBreak b && rest.any (!isBreak ·) then
        some ([c, ':'], encodeSegment rest)
      else none
    | _ => none

/-- The segments so far, the last one first, and whether they begin with a drive. -/
structure Walk where
  segments : List (List Char) := []
  onDrive : Bool := false

namespace Walk

def push (w : Walk) (s : List Char) : Walk := { w with segments := s :: w.segments }

/-- Takes the last segment away; a drive stays. -/
def up (w : Walk) : Walk :=
  if w.segments.head?.any beginsWithDrive then w else { w with segments := w.segments.drop 1 }

/-- Goes on by a segment; behind dots at the end of a path an empty one follows. -/
def step (isFile isLast : Bool) (w : Walk) (s : List Char) : Walk :=
  let name := encodeSegment s
  let close (w : Walk) : Walk := if isLast then w.push [] else w
  if isDoubleDot name then close w.up
  else if isSingleDot name then close w
  else if isFile && w.segments.isEmpty then
    match detachedDrive? s with
    | some (drive, rest) => (w.push drive).push rest
    | none =>
      if isDrive name then { segments := [[name.headD 'C', ':']], onDrive := true } else w.push name
  else w.push name

def walk (isFile : Bool) (w : Walk) : List (List Char) → Walk
  | [] => w
  | s :: rest => (w.step isFile rest.isEmpty s).walk isFile rest

def names (w : Walk) : List String := w.segments.reverse.map String.ofList

end Walk

/-- The pieces of a text between its slashes. -/
def cutSlashes (scheme : String) (cs : List Char) : List (List Char) :=
  splitOn '/' (cs.map fun c => if isSlash scheme c then '/' else c)

/-- The path with a text behind its first slash. -/
def segmentsOf (scheme : String) (cs : List Char) : UrlPath :=
  .segments (Walk.walk false {} (cutSlashes scheme cs)).names

/-- Empty segments in front count for nothing in the path of a file. -/
def withoutEmptyFront (names : List String) : List String :=
  match names.dropWhile (· = "") with
  | [] => [""]
  | names => names

/-- The path of a file with a text behind its first slash, and whether it begins with a drive. -/
def filePath (cs : List Char) : UrlPath × Bool :=
  let w := Walk.walk true {} (cutSlashes "file" cs)
  (.segments (withoutEmptyFront w.names), w.onDrive)

end GraphQLClient.Url
