import GraphQLClient.Http.Headers

/-!
The grammar of media types: a type and a subtype, which are tokens, and parameters, whose values are
tokens or stand in quotes.
-/

namespace GraphQLClient.MediaType

/-- What follows a quoted value up to the next parameter. -/
def afterQuotes (cs : List Char) : Option (List Char) :=
  match cs.dropWhile (· = ' ') with
  | [] => some []
  | c :: rest => if c = ';' then some rest else none

def isQuotable (c : Char) : Bool := 0x20 ≤ c.toNat && c.toNat ≠ 0x7F

/--
The text behind a parameter's value. Quotes hold at least one character, and the first one that they
hold may itself be a quote.
-/
def value? : List Char → Option (List Char)
  | '"' :: c :: cs =>
    match cs.span (fun d => isQuotable d && d ≠ '"') with
    | (_, '"' :: rest) => if isQuotable c then afterQuotes rest else none
    | _ => none
  | cs =>
    match cs.span isTokenChar with
    | (_, []) => some []
    | (_ :: _, ';' :: rest) => some rest
    | _ => none

/-- Parameters, at most `fuel` of them, up to the end of the text; blanks alone are none. -/
def areParameters : (fuel : Nat) → List Char → Bool
  | 0, cs => cs.isEmpty
  | fuel + 1, cs =>
    match (cs.dropWhile (· = ' ')).span isTokenChar with
    | ([], []) => true
    | (_ :: _, '=' :: rest) =>
      match value? rest with
      | some rest => areParameters fuel rest
      | none => false
    | _ => false

def isMediaType (text : String) : Bool :=
  match text.toList.span isTokenChar with
  | (_ :: _, '/' :: rest) =>
    match rest.span isTokenChar with
    | (_, []) => true
    | (_ :: _, ';' :: params) => areParameters params.length params
    | _ => false
  | _ => false

end GraphQLClient.MediaType
