import GraphQLClient.Json.Printer
import GraphQLClient.Text.Quoted

/-!
What can be wrong with JSON that is read as a value of some type: text that breaks the grammar, or
content that does not fit. The first fault met in reading order is the one reported, so one type
holds both. Each cause has one wording.
-/

namespace GraphQLClient.Json

/-- Faults of the text. -/
inductive Malformed where
  | endInList | endInObject | endInString | endInValue
  | expectedColon | expectedListEnd | expectedObjectEnd | expectedWord | expectedValue
  | invalidEscape | invalidNumber | numberOutOfRange | invalidCodePoint | controlCharacter
  | keyNotString | loneSurrogate | unpairedSurrogate
  | trailingComma | trailingCharacters | nestedTooDeep
  deriving DecidableEq

def Malformed.message : Malformed → String
  | .endInList => "EOF while parsing a list"
  | .endInObject => "EOF while parsing an object"
  | .endInString => "EOF while parsing a string"
  | .endInValue => "EOF while parsing a value"
  | .expectedColon => "expected `:`"
  | .expectedListEnd => "expected `,` or `]`"
  | .expectedObjectEnd => "expected `,` or `\x7d`"
  | .expectedWord => "expected ident"
  | .expectedValue => "expected value"
  | .invalidEscape => "invalid escape"
  | .invalidNumber => "invalid number"
  | .numberOutOfRange => "number out of range"
  | .invalidCodePoint => "invalid unicode code point"
  | .controlCharacter => "control character (\\u0000-\\u001F) found while parsing a string"
  | .keyNotString => "key must be a string"
  | .loneSurrogate => "lone leading surrogate in hex escape"
  | .unpairedSurrogate => "unexpected end of hex escape"
  | .trailingComma => "trailing comma"
  | .trailingCharacters => "trailing characters"
  | .nestedTooDeep => "recursion limit exceeded"

/-- What stood where something else was expected. -/
inductive Found where
  | null
  | boolean (value : Bool)
  | number (value : Number)
  | string (value : String)
  | sequence
  | map

def Found.text : Found → String
  | .null => "null"
  | .boolean b => "boolean `" ++ boolText b ++ "`"
  | .number (.integer n) => "integer `" ++ Number.text (.integer n) ++ "`"
  | .number (.float x) => "floating point `" ++ Number.text (.float x) ++ "`"
  | .string s => "string " ++ Text.quoted s
  | .sequence => "sequence"
  | .map => "map"

def found : Json → Found
  | .null => .null
  | .bool b => .boolean b
  | .number n => .number n
  | .string s => .string s
  | .array _ => .sequence
  | .object _ => .map

/-- Faults of the content; `expected` names what was wanted. -/
inductive Mismatch where
  | missingField (name : String)
  | duplicateField (name : String)
  | invalidLength (length : Nat) (expected : String)
  | invalidType (found : Found) (expected : String)
  | invalidValue (found : Found) (expected : String)
  | noAlternative (name : String)

def Mismatch.message : Mismatch → String
  | .missingField n => "missing field `" ++ n ++ "`"
  | .duplicateField n => "duplicate field `" ++ n ++ "`"
  | .invalidLength l e => "invalid length " ++ toString l ++ ", expected " ++ e
  | .invalidType f e => "invalid type: " ++ f.text ++ ", expected " ++ e
  | .invalidValue f e => "invalid value: " ++ f.text ++ ", expected " ++ e
  | .noAlternative n => "data did not match any variant of untagged enum " ++ n

inductive Fault where
  | malformed (cause : Malformed)
  | mismatch (cause : Mismatch)

def Fault.message : Fault → String
  | .malformed c => c.message
  | .mismatch c => c.message

end GraphQLClient.Json
