import GraphQLClient.Url.Basic
import GraphQLClient.Url.Domain.Direction
import GraphQLClient.Url.Domain.Joining
import GraphQLClient.Url.Domain.Mapping
import GraphQLClient.Url.Domain.Punycode

/-!
Domain names in ASCII. A label that holds other characters is written in ASCII digits behind `xn--`;
one that comes in that form must stand for a label that is prepared already, so that a name has one
form only.
-/

namespace GraphQLClient.Url.Domain

def isAscii (c : Char) : Bool := c.toNat < 0x80

structure Label where
  /-- The label as it is read. -/
  letters : List Char
  /-- The label as it is sent. -/
  ascii : List Char

namespace Label

def codedPrefix : List Char := "xn--".toList

/-- A label behind its prefix; long ones are not looked at. -/
def ofCoded? (coded : List Char) : Option Label :=
  if coded.all isAscii && coded.getLast?.any (· ≠ '-') && coded.length ≤ 2000 then
    match Punycode.decode? coded with
    | none => none
    | some letters =>
      if prepare letters = some letters then some { letters, ascii := codedPrefix ++ coded }
      else none
  else none

/-- A label of a prepared name. -/
def ofPrepared? (label : List Char) : Option Label :=
  if codedPrefix.isPrefixOf label then ofCoded? (label.drop codedPrefix.length)
  else if label.all isAscii then some { letters := label, ascii := label }
  else some { letters := label, ascii := codedPrefix ++ Punycode.encode label }

/-- Not too long, no mark in front, and joiners only where they join. -/
def isFit (l : Label) : Bool :=
  (l.letters.all isAscii || l.letters.length ≤ 1000) &&
    !l.letters.head?.any markTable.contains &&
    joinersFit [] l.letters

end Label

/-- The ASCII form of a domain name, if it is one. -/
def toAscii? (name : List Char) : Option (List Char) :=
  match (prepare name).bind fun prepared => (splitOn '.' prepared).mapM Label.ofPrepared? with
  | none => none
  | some labels =>
    if labels.all Label.isFit && directionsFit (labels.map (·.letters)) then
      some (['.'].intercalate (labels.map (·.ascii)))
    else none

end GraphQLClient.Url.Domain
