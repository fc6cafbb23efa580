/-!
Labels of domain names in ASCII digits. The ASCII characters of a label come first, then a hyphen,
then one number for each other character, in the order of their code points: how many places in all
texts so far are passed over until the character is put in.
-/

namespace GraphQLClient.Url.Domain.Punycode

/-! ## Numbers -/

def digit (n : Nat) : Char := Char.ofNat (if n < 26 then 0x61 + n else 0x16 + n)

/-- The value of a digit of either case. -/
def digitValue? (c : Char) : Option Nat :=
  if c.isDigit then some (c.toNat - 0x30 + 26)
  else if c.isAlpha then some (c.toLower.toNat - 0x61)
  else none

/-- A number ends with its first digit below the threshold of its place. -/
def threshold (place bias : Nat) : Nat :=
  if place ≤ bias then 1 else if bias + 26 ≤ place then 26 else place - bias

theorem threshold_pos (place bias : Nat) : 0 < threshold place bias := by
  unfold threshold
  split
  · omega
  · split <;> omega

/-- The bias after a number, by repeated division. -/
def adaptFrom (delta place : Nat) : Nat :=
  if 455 < delta then adaptFrom (delta / 35) (place + 36)
  else place + 36 * delta / (delta + 38)
termination_by delta

def adapt (delta points : Nat) (first : Bool) : Nat :=
  let d := if first then delta / 700 else delta / 2
  adaptFrom (d + d / points) 0

/-! ## Writing -/

/-- The digits of a number, the weights of their places growing. -/
def digits (bias place n : Nat) : List Char :=
  let t := threshold place bias
  if n < t then [digit n]
  else digit (t + (n - t) % (36 - t)) :: digits bias (place + 36) ((n - t) / (36 - t))
termination_by n
decreasing_by
  have := threshold_pos place bias
  have := Nat.div_le_self (n - threshold place bias) (36 - threshold place bias)
  omega

structure Progress where
  delta : Nat
  bias : Nat
  handled : Nat
  output : List Char

/-- One pass over the label for the code point `n`. -/
def pass (basic n : Nat) (p : Progress) (label : List Nat) : Progress :=
  label.foldl
    (fun p c =>
      if c < n then { p with delta := p.delta + 1 }
      else if c = n then
        { delta := 0
          bias := adapt p.delta (p.handled + 1) (p.handled = basic)
          handled := p.handled + 1
          output := p.output ++ digits p.bias 36 p.delta }
      else p)
    p

/-- A pass for each code point, in order; `next` is the one after the last that was handled. -/
def passes (basic : Nat) (label : List Nat) : (next : Nat) → Progress → List Nat → List Char
  | _, p, [] => p.output
  | next, p, n :: rest =>
    let p := pass basic n { p with delta := p.delta + (n - next) * (p.handled + 1) } label
    passes basic label (n + 1) { p with delta := p.delta + 1 } rest

/-- The ASCII form of a label. -/
def encode (label : List Char) : List Char :=
  let basic := label.filter (·.toNat < 0x80)
  let output := if basic.isEmpty then [] else basic ++ ['-']
  let points := label.map Char.toNat
  let foreignPoints := (points.filter (0x80 ≤ ·)).eraseDups.mergeSort
  passes basic.length points 0x80 ⟨0, 72, basic.length, output⟩ foreignPoints

/-! ## Reading -/

/-- Numbers that do not fit into 32 bits are none. -/
def limit : Nat := 0xFFFFFFFF

/-- Adds the number in front of the digits to `sum` and gives the digits behind it. -/
def number? (bias : Nat) : (place weight sum : Nat) → List Char → Option (Nat × List Char)
  | _, _, _, [] => none
  | place, weight, sum, c :: rest =>
    match digitValue? c with
    | none => none
    | some d =>
      let t := threshold place bias
      if limit < sum + d * weight then none
      else if d < t then some (sum + d * weight, rest)
      else if limit < weight * (36 - t) then none
      else number? bias (place + 36) (weight * (36 - t)) (sum + d * weight) rest

/-- A text that is filled in, where the next character comes, and how it is numbered. -/
structure Filling where
  text : List Char
  position : Nat := 0
  point : Nat := 0x80
  bias : Nat := 72

/-- Puts in the character whose number leads to `sum`. -/
def Filling.put? (f : Filling) (sum : Nat) : Option Filling :=
  let size := f.text.length + 1
  let point := f.point + sum / size
  if h : point.isValidChar then
    some
      { text := f.text.insertIdx (sum % size) (Char.ofNatAux point h)
        position := sum % size + 1
        point
        bias := adapt (sum - f.position) size (f.position = 0) }
  else none

/-- Puts in a character for each number, at most `fuel` of them. -/
def fill? : (fuel : Nat) → Filling → List Char → Option (List Char)
  | _, f, [] => some f.text
  | 0, _, _ :: _ => none
  | fuel + 1, f, cs =>
    match number? f.bias 36 1 f.position cs with
    | none => none
    | some (sum, rest) =>
      match f.put? sum with
      | none => none
      | some f => fill? fuel f rest

/-- The label that an ASCII form stands for. -/
def decode? (coded : List Char) : Option (List Char) :=
  match coded.reverse.span (· ≠ '-') with
  | (digits, []) => fill? digits.length { text := [] } digits.reverse
  | (_, [_]) => none
  | (digits, _ :: basic) => fill? digits.length { text := basic.reverse } digits.reverse

end GraphQLClient.Url.Domain.Punycode
