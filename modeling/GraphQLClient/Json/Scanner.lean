import GraphQLClient.Json.Fault
import GraphQLClient.Text.Utf8

/-!
The pieces of JSON text: blanks, words, numbers and strings. Each function takes the bytes that are
left and gives back what it read with the bytes after it.

A number's digits are taken into a significand of 64 bits as long as they fit; those that do not fit
only shift the point. Its value is the significand as a double, multiplied or divided once by a
power of ten, so a long decimal may differ in its last place from the nearest double.
-/

namespace GraphQLClient.Json

abbrev Scan (α : Type) := Except Fault (α × Bytes)

def malformed {α : Type} (cause : Malformed) : Except Fault α := .error (.malformed cause)

def isBlankByte (b : UInt8) : Bool := b = 0x20 || b = 0x0A || b = 0x09 || b = 0x0D

def skipBlanks (input : Bytes) : Bytes := input.dropWhile isBlankByte

def isDigitByte (b : UInt8) : Bool := 0x30 ≤ b && b ≤ 0x39

def digitOf (b : UInt8) : Nat := b.toNat - 0x30

/-- The rest of a word whose first letter has been read. -/
def scanWord : Bytes → Bytes → Except Fault Bytes
  | [], input => .ok input
  | _ :: _, [] => malformed .endInValue
  | e :: es, b :: input => if b = e then scanWord es input else malformed .expectedWord

/-! ## Numbers -/

/-- Digits taken into a significand while it stays below `2⁶⁴`, with their count. -/
def takeDigits (significand taken : Nat) : Bytes → Nat × Nat × Bytes
  | [] => (significand, taken, [])
  | b :: input =>
    if isDigitByte b && 10 * significand + digitOf b < 0x10000000000000000 then
      takeDigits (10 * significand + digitOf b) (taken + 1) input
    else (significand, taken, b :: input)

def powerOfTen (n : Nat) : Binary64 := Binary64.ofNat (Binary64.tenTo n)

/-- Division by powers of ten up to `10³⁰⁸` at a time, until nothing is left. -/
def scaleDown : Nat → Binary64 → Nat → Binary64
  | 0, f, _ => f
  | fuel + 1, f, places =>
    if places ≤ 308 then f.div (powerOfTen places)
    else if f.isZero then f
    else scaleDown fuel (f.div (powerOfTen 308)) (places - 308)

/-- `significand * 10 ^ exponent`. Four divisions exhaust any 64-bit significand. -/
def floatOfParts (negative : Bool) (significand : Nat) (exponent : Int) :
    Except Fault Finite64 :=
  let f := Binary64.ofNat significand
  let magnitude :=
    if exponent < 0 then scaleDown 4 f exponent.natAbs
    else if exponent ≤ 308 then f.mul (powerOfTen exponent.toNat)
    else if f.isZero then f
    else .infinity false
  match Finite64.ofBinary64? (if negative then magnitude.negate else magnitude) with
  | some x => .ok x
  | none => malformed .numberOutOfRange

def floatNumber (negative : Bool) (significand : Nat) (exponent : Int) (rest : Bytes) :
    Scan Number :=
  (floatOfParts negative significand exponent).map fun x => (.float x, rest)

/-- An exponent's digits. Those beyond 31 bits are out of range, or vanish. -/
def scanExponentDigits (negative : Bool) (significand : Nat) (start : Int) (down : Bool)
    (input : Bytes) : Scan Number :=
  let ds := input.takeWhile isDigitByte
  let rest := input.dropWhile isDigitByte
  let e := ds.foldl (fun n b => 10 * n + digitOf b) 0
  if e < 0x80000000 then
    floatNumber negative significand (if down then start - e else start + e) rest
  else if significand ≠ 0 && !down then malformed .numberOutOfRange
  else floatNumber negative 0 0 rest

/-- What follows `e` or `E`. -/
def scanExponent (negative : Bool) (significand : Nat) (start : Int) (input : Bytes) :
    Scan Number :=
  let (down, input) := match input with
    | 0x2B :: r => (false, r)
    | 0x2D :: r => (true, r)
    | r => (false, r)
  match input with
  | [] => malformed .endInValue
  | b :: r =>
    if isDigitByte b then scanExponentDigits negative significand start down (b :: r)
    else malformed .invalidNumber

/-- The end of a number after its digits: an exponent or nothing. -/
def scanFloatEnd (negative : Bool) (significand : Nat) (exponent : Int) (input : Bytes) :
    Scan Number :=
  match input with
  | [] => floatNumber negative significand exponent []
  | b :: r =>
    if b = 0x65 || b = 0x45 then scanExponent negative significand exponent r
    else floatNumber negative significand exponent (b :: r)

/-- What follows the point. -/
def scanFraction (negative : Bool) (significand : Nat) (exponent : Int) (input : Bytes) :
    Scan Number :=
  match input with
  | [] => malformed .endInValue
  | b :: r =>
    if isDigitByte b then
      let (s, taken, rest) := takeDigits significand 0 (b :: r)
      scanFloatEnd negative s (exponent - taken) (rest.dropWhile isDigitByte)
    else malformed .invalidNumber

/-- A number without point and exponent: a whole number if 64 bits hold it. -/
def wholeNumber (negative : Bool) (significand : Nat) (rest : Bytes) : Scan Number :=
  if negative && significand = 0 then floatNumber true 0 0 rest
  else
    match Integer64.ofInt? (if negative then -(significand : Int) else significand) with
    | some n => .ok (.integer n, rest)
    | none => floatNumber negative significand 0 rest

/-- What follows the digits before the point, `shift` of which did not fit. -/
def scanNumberEnd (negative : Bool) (significand shift : Nat) (input : Bytes) : Scan Number :=
  match input with
  | 0x2E :: r => scanFraction negative significand shift r
  | r =>
    match r with
    | b :: _ =>
      if b = 0x65 || b = 0x45 || 0 < shift then scanFloatEnd negative significand shift r
      else wholeNumber negative significand r
    | [] =>
      if 0 < shift then scanFloatEnd negative significand shift r
      else wholeNumber negative significand r

/-- A number after its sign. -/
def scanNumber (negative : Bool) : Bytes → Scan Number
  | [] => malformed .endInValue
  | b :: input =>
    if b = 0x30 then
      if (input.head?.map isDigitByte).getD false then malformed .invalidNumber
      else scanNumberEnd negative 0 0 input
    else if isDigitByte b then
      let (s, _, rest) := takeDigits 0 0 (b :: input)
      scanNumberEnd negative s (rest.takeWhile isDigitByte).length (rest.dropWhile isDigitByte)
    else malformed .invalidNumber

/-! ## Strings -/

def hexValue? (b : UInt8) : Option Nat :=
  if isDigitByte b then some (b.toNat - 0x30)
  else if 0x61 ≤ b && b ≤ 0x66 then some (b.toNat - 0x57)
  else if 0x41 ≤ b && b ≤ 0x46 then some (b.toNat - 0x37)
  else none

/-- Four hexadecimal digits, the last one first. -/
def hexUnit? (reversed : Bytes) : Option Nat :=
  reversed.foldr (fun b acc => acc.bind fun n => (hexValue? b).map fun d => 16 * n + d) (some 0)

/-- Where in a string the scanner stands. A leading surrogate waits for its second half. -/
inductive StringState where
  | plain
  | escape
  | hex (surrogate : Option Nat) (reversed : Bytes)
  | pairBackslash (surrogate : Nat)
  | pairLetter (surrogate : Nat)

def isLeading (n : Nat) : Bool := 0xD800 ≤ n && n ≤ 0xDBFF
def isTrailing (n : Nat) : Bool := 0xDC00 ≤ n && n ≤ 0xDFFF

def pairUnits (leading trailing : Nat) : Nat :=
  (leading - 0xD800) * 0x400 + (trailing - 0xDC00) + 0x10000

/-- The character that a single-letter escape stands for. -/
def escaped? (b : UInt8) : Option UInt8 :=
  if b = 0x22 || b = 0x5C || b = 0x2F then some b
  else if b = 0x62 then some 0x08
  else if b = 0x66 then some 0x0C
  else if b = 0x6E then some 0x0A
  else if b = 0x72 then some 0x0D
  else if b = 0x74 then some 0x09
  else none

/-- What four hexadecimal digits lead to: bytes of the string, or the wait for a second half. -/
def closeUnit (surrogate : Option Nat) (reversed : Bytes) : Except Fault (Bytes × StringState) :=
  match hexUnit? reversed, surrogate with
  | none, _ => malformed .invalidEscape
  | some n, none =>
    if isTrailing n then malformed .loneSurrogate
    else if isLeading n then .ok ([], .pairBackslash n)
    else .ok (String.utf8EncodeChar (Char.ofNat n), .plain)
  | some n, some leading =>
    if isTrailing n then .ok (String.utf8EncodeChar (Char.ofNat (pairUnits leading n)), .plain)
    else malformed .loneSurrogate

/-- The bytes of a string up to its closing quote, `acc` holding those read so far, last first. -/
def scanStringFrom (state : StringState) (acc : Bytes) : Bytes → Scan Bytes
  | [] => malformed .endInString
  | b :: input =>
    match state with
    | .plain =>
      if b = 0x22 then .ok (acc.reverse, input)
      else if b = 0x5C then scanStringFrom .escape acc input
      else if b < 0x20 then malformed .controlCharacter
      else scanStringFrom .plain (b :: acc) input
    | .escape =>
      if b = 0x75 then scanStringFrom (.hex none []) acc input
      else
        match escaped? b with
        | some c => scanStringFrom .plain (c :: acc) input
        | none => malformed .invalidEscape
    | .hex surrogate reversed =>
      if reversed.length < 3 then scanStringFrom (.hex surrogate (b :: reversed)) acc input
      else
        match closeUnit surrogate (b :: reversed) with
        | .error e => .error e
        | .ok (bytes, next) => scanStringFrom next (bytes.reverse ++ acc) input
    | .pairBackslash surrogate =>
      if b = 0x5C then scanStringFrom (.pairLetter surrogate) acc input
      else malformed .unpairedSurrogate
    | .pairLetter surrogate =>
      if b = 0x75 then scanStringFrom (.hex (some surrogate) []) acc input
      else malformed .unpairedSurrogate

/-- A string after its opening quote. Its bytes have to be UTF-8. -/
def scanString (input : Bytes) : Scan String :=
  match scanStringFrom .plain [] input with
  | .error e => .error e
  | .ok (bytes, rest) =>
    match Text.Utf8.decode? bytes with
    | some s => .ok (s, rest)
    | none => malformed .invalidCodePoint

/-! ## Passing over what is not wanted -/

/-- A string whose contents do not matter; its escapes have to be well formed one by one. -/
def passStringFrom (state : StringState) : Bytes → Except Fault Bytes
  | [] => malformed .endInString
  | b :: input =>
    match state with
    | .escape =>
      if b = 0x75 then passStringFrom (.hex none []) input
      else if (escaped? b).isSome then passStringFrom .plain input
      else malformed .invalidEscape
    | .hex _ reversed =>
      if reversed.length < 3 then passStringFrom (.hex none (b :: reversed)) input
      else if (hexUnit? (b :: reversed)).isSome then passStringFrom .plain input
      else malformed .invalidEscape
    | _ =>
      if b = 0x22 then .ok input
      else if b = 0x5C then passStringFrom .escape input
      else if b < 0x20 then malformed .controlCharacter
      else passStringFrom .plain input

def passString (input : Bytes) : Except Fault Bytes := passStringFrom .plain input

def passDigits (input : Bytes) : Except Fault Bytes :=
  if (input.head?.map isDigitByte).getD false then .ok (input.dropWhile isDigitByte)
  else malformed .invalidNumber

def passExponent (input : Bytes) : Except Fault Bytes :=
  match input with
  | b :: r =>
    if b = 0x65 || b = 0x45 then
      match r with
      | 0x2B :: r => passDigits r
      | 0x2D :: r => passDigits r
      | r => passDigits r
    else .ok (b :: r)
  | [] => .ok []

/-- A number after its sign, of any size. -/
def passNumber (input : Bytes) : Except Fault Bytes := do
  let rest ← match input with
    | 0x30 :: r =>
      if (r.head?.map isDigitByte).getD false then malformed .invalidNumber else .ok r
    | r => passDigits r
  match rest with
  | 0x2E :: r => passExponent (← passDigits r)
  | r => passExponent r

end GraphQLClient.Json
