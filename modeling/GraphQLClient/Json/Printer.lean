import GraphQLClient.Json.Basic
import GraphQLClient.Text.Hex

/-!
Compact JSON text: no blanks, members in the order in which they stand. Strings escape the quote,
the backslash and the characters below U+0020, five of these by a letter.
-/

namespace GraphQLClient.Json

def escapeChar (c : Char) : List Char :=
  if c = '"' then ['\\', '"']
  else if c = '\\' then ['\\', '\\']
  else if c = '\x08' then ['\\', 'b']
  else if c = '\t' then ['\\', 't']
  else if c = '\n' then ['\\', 'n']
  else if c = '\x0c' then ['\\', 'f']
  else if c = '\r' then ['\\', 'r']
  else if c.toNat < 0x20 then
    ['\\', 'u', '0', '0', Text.Hex.digit (c.toNat / 16), Text.Hex.digit (c.toNat % 16)]
  else [c]

def stringChars (s : String) : List Char := '"' :: (s.toList.flatMap escapeChar ++ ['"'])

/-- The text of a string. -/
def stringText (s : String) : String := String.ofList (stringChars s)

def boolText (b : Bool) : String := if b then "true" else "false"

mutual

def chars : Json → List Char
  | .null => "null".toList
  | .bool b => (boolText b).toList
  | .number n => n.text.toList
  | .string s => stringChars s
  | .array items => '[' :: (itemChars items ++ [']'])
  | .object members => '\x7b' :: (memberChars members ++ ['\x7d'])

def itemChars : List Json → List Char
  | [] => []
  | [v] => v.chars
  | v :: rest => v.chars ++ ',' :: itemChars rest

def memberChars : List (String × Json) → List Char
  | [] => []
  | [(n, v)] => stringChars n ++ ':' :: v.chars
  | (n, v) :: rest => stringChars n ++ ':' :: (v.chars ++ ',' :: memberChars rest)

end

def text (v : Json) : String := String.ofList v.chars

end GraphQLClient.Json
