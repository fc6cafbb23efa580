import GraphQLClient.Text.Unprintable

/-!
Quoted text for messages: double quotes around, a backslash before a quote or a backslash, short
escapes for tab, line ends and the zero character, and `\u{…}` with hexadecimal digits for
every other character that could not be seen.
-/

namespace GraphQLClient.Text

/-- Lower-case hexadecimal digits without leading zeros. -/
def hexDigits (n : Nat) : List Char := Nat.toDigits 16 n

def quotedChar (c : Char) : List Char :=
  if c = '\t' then ['\\', 't']
  else if c = '\r' then ['\\', 'r']
  else if c = '\n' then ['\\', 'n']
  else if c = '\x00' then ['\\', '0']
  else if c = '"' then ['\\', '"']
  else if c = '\\' then ['\\', '\\']
  else if isUnprintable c then ['\\', 'u', '\x7b'] ++ hexDigits c.toNat ++ ['\x7d']
  else [c]

def quoted (s : String) : String := String.ofList ('"' :: s.toList.flatMap quotedChar ++ ['"'])

def quoted? : Option String → String
  | none => "None"
  | some s => "Some(" ++ quoted s ++ ")"

end GraphQLClient.Text
