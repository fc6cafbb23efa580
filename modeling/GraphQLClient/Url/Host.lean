import GraphQLClient.Url.Domain.Name

/-!
Hosts: domain names, which are lower-cased and written in ASCII, and addresses of both versions,
which are written in their shortest usual form.
-/

namespace GraphQLClient.Url

def digitsValue (base : Nat) (cs : List Char) : Nat :=
  cs.foldl (fun n c => base * n + (Text.Hex.value? c).getD 0) 0

/-! ## Addresses of version 4 -/

/-- A decimal number, an octal one behind a zero or a hexadecimal one behind `0x`. -/
def ipv4Number? (cs : List Char) : Option Nat :=
  let number (base : Nat) (digits : List Char) : Option Nat :=
    if digits.all (fun c => (Text.Hex.value? c).any (· < base)) then some (digitsValue base digits)
    else none
  match cs with
  | [] => none
  | '0' :: 'x' :: rest => number 16 rest
  | '0' :: 'X' :: rest => number 16 rest
  | '0' :: d :: rest => number 8 (d :: rest)
  | cs => number 10 cs

/-- The labels of a name without the empty one that a dot at its end leaves. -/
def labels (cs : List Char) : List (List Char) :=
  let ls := splitOn '.' cs
  if 1 < ls.length && ls.getLast? = some [] then ls.dropLast else ls

/-- A name whose last label is a number must be an address. -/
def endsInNumber (cs : List Char) : Bool :=
  match (labels cs).getLast? with
  | none => false
  | some last => (!last.isEmpty && last.all Char.isDigit) || (ipv4Number? last).isSome

/-- All parts but the last give a byte each; the last gives what is left. -/
def ipv4? (cs : List Char) : Option Nat :=
  let parts := labels cs
  match parts.mapM ipv4Number? with
  | none => none
  | some numbers =>
    match numbers.reverse with
    | [] => none
    | last :: before =>
      let before := before.reverse
      if 3 < before.length || before.any (255 < ·) || 1 <<< (8 * (4 - before.length)) ≤ last then none
      else some ((before.mapIdx fun i n => n <<< (8 * (3 - i))).foldl (· + ·) last)

def ipv4Text (n : Nat) : String :=
  ".".intercalate ([3, 2, 1, 0].map fun i => toString ((n >>> (8 * i)) % 256))

/-! ## Addresses of version 6 -/

/-- Four decimal bytes without leading zeros, as two groups of 16 bits. -/
def embeddedIpv4? (cs : List Char) : Option (List Nat) :=
  let byte? (ds : List Char) : Option Nat :=
    if ds.isEmpty || !ds.all Char.isDigit || 3 < ds.length || (1 < ds.length && ds.head? = some '0')
    then none
    else
      let n := digitsValue 10 ds
      if n < 256 then some n else none
  match (splitOn '.' cs).mapM byte? with
  | some [a, b, c, d] => some [a * 256 + b, c * 256 + d]
  | _ => none

/-- Groups between colons; the last may be an address of version 4. -/
def groups? : List (List Char) → Option (List Nat)
  | [] => some []
  | [g] =>
    if g.contains '.' then embeddedIpv4? g
    else if !g.isEmpty && g.length ≤ 4 && g.all (fun c => (Text.Hex.value? c).isSome) then
      some [digitsValue 16 g]
    else none
  | g :: rest =>
    if !g.isEmpty && g.length ≤ 4 && g.all (fun c => (Text.Hex.value? c).isSome) then
      (groups? rest).map (digitsValue 16 g :: ·)
    else none

/-- Cuts a text at its first two colons in a row. -/
def cutGap : List Char → Option (List Char × List Char)
  | [] => none
  | ':' :: ':' :: rest => some ([], rest)
  | c :: rest => (cutGap rest).map fun r => (c :: r.1, r.2)

def groupList? (cs : List Char) : Option (List Nat) :=
  if cs.isEmpty then some [] else groups? (splitOn ':' cs)

/-- Eight groups, or fewer around one gap of zeros. -/
def ipv6? (cs : List Char) : Option (List Nat) :=
  match cutGap cs with
  | none =>
    match groupList? cs with
    | some gs => if gs.length = 8 then some gs else none
    | none => none
  | some (before, after) =>
    if before.contains '.' then none
    else
      match groupList? before, groupList? after with
      | some a, some b =>
        if a.length + b.length < 8 then
          some (a ++ List.replicate (8 - a.length - b.length) 0 ++ b)
        else none
      | _, _ => none

/-- Where the first of the longest runs of zeros starts, and its length. -/
def longestZeros : Nat → Nat → Nat → Nat × Nat → List Nat → Nat × Nat
  | _, _, _, best, [] => best
  | i, start, run, best, g :: rest =>
    if g = 0 then
      let start := if run = 0 then i else start
      let best := if best.2 < run + 1 then (start, run + 1) else best
      longestZeros (i + 1) start (run + 1) best rest
    else longestZeros (i + 1) 0 0 best rest

def hexText (n : Nat) : String := String.ofList (Nat.toDigits 16 n)

/-- Lower-case groups, two colons standing for the longest run of at least two zeros. -/
def ipv6Text (gs : List Nat) : String :=
  let (start, run) := longestZeros 0 0 0 (0, 0) gs
  let join (gs : List Nat) := ":".intercalate (gs.map hexText)
  if run < 2 then "[" ++ join gs ++ "]"
  else "[" ++ join (gs.take start) ++ "::" ++ join (gs.drop (start + run)) ++ "]"

/-! ## Hosts -/

def forbiddenInHost : List Char :=
  ['\x00', '\t', '\n', '\r', ' ', '#', '/', ':', '<', '>', '?', '@', '[', '\\', ']', '^', '|']

/-- An address of version 6 in brackets. -/
def bracketed? (cs : List Char) : Except UrlFault String :=
  match ipv6? (cs.drop 1).dropLast with
  | some gs => if cs.getLast? = some ']' then .ok (ipv6Text gs) else .error .invalidIpv6
  | none => .error .invalidIpv6

/-- The host of a URL whose scheme gives hosts a meaning. -/
def domainOrAddress (cs : List Char) : Except UrlFault String :=
  if cs.head? = some '[' then bracketed? cs
  else
    match Text.Utf8.decode? (percentDecode cs) with
    | none => .error .internationalName
    | some name =>
      match Domain.toAscii? name.toList with
      | none => .error .internationalName
      | some ascii =>
        if ascii.isEmpty then .error .emptyHost
        else if endsInNumber ascii then
          match ipv4? ascii with
          | some n => .ok (ipv4Text n)
          | none => .error .invalidIpv4
        else .ok (String.ofList ascii)

/-- The host of any other URL. -/
def opaqueHost (cs : List Char) : Except UrlFault String :=
  if cs.head? = some '[' then bracketed? cs
  else if cs.any forbiddenInHost.contains then .error .invalidDomainCharacter
  else .ok (String.ofList (percentEncode [] cs))

end GraphQLClient.Url
