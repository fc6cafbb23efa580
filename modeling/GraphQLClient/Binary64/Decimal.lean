import GraphQLClient.Binary64.Basic

/-!
Doubles in decimal. `shortest` finds the fewest digits that read back as the same double, and of
those the nearest to it; `Layout.render` writes them; `ofDecimal` reads a decimal number by rounding
it once.
-/

namespace GraphQLClient.Binary64

def tenTo (n : Nat) : Nat := Nat.pow 10 n

/-- The number `digits * 10 ^ exponent`. -/
structure Decimal where
  digits : Nat
  exponent : Int

/-- The numbers that round to a double: from `low` to `high` over `den`, ends included if closed. -/
structure Interval where
  low : Nat
  middle : Nat
  high : Nat
  den : Nat
  closed : Bool

/-- Below a power of two the next double is only half as far. -/
def interval (x : Binary64) : Interval :=
  let m := x.significand
  let below := if m = binade && 0 < x.step then 1 else 2
  { low := (4 * m - below) <<< x.step
    middle := (4 * m) <<< x.step
    high := (4 * m + 2) <<< x.step
    den := 4 * one
    closed := m % 2 = 0 }

def Interval.holds (i : Interval) (up down point : Nat) : Bool :=
  let p := point * i.den * down
  if i.closed then i.low * up ≤ p && p ≤ i.high * up else i.low * up < p && p < i.high * up

/-- The multiple of `10 ^ k` in the interval that is nearest its middle, if there is one. -/
def Interval.onGrid? (i : Interval) (k : Int) : Option Nat :=
  let up := tenTo (-k).toNat
  let down := tenTo k.toNat
  let num := i.middle * up
  let unit := i.den * down
  let q := num / unit
  match i.holds up down q, i.holds up down (q + 1) with
  | true, true => some (nearest num unit)
  | true, false => some q
  | false, true => some (q + 1)
  | false, false => none

/-- The first hit on ever finer grids, from `10 ^ k` down. -/
def Interval.search (i : Interval) : Nat → Int → Decimal
  | 0, k => ⟨nearest (i.middle * tenTo (-k).toNat) (i.den * tenTo k.toNat), k⟩
  | fuel + 1, k =>
    match i.onGrid? k with
    | some d => ⟨d, k⟩
    | none => i.search fuel (k - 1)

/--
The fewest digits. The search starts above the number and seventeen digits always suffice, so
twenty-four grids are more than enough.
-/
def shortest (x : Binary64) : Decimal :=
  x.interval.search 24 (((x.scaled.log2 : Int) - 1073) * 30103 / 100000 + 1)

/-- Where positional notation begins and ends, by the place of the point before the digits. -/
structure Layout where
  leastPoint : Int
  greatestPoint : Int

def zeros (n : Int) : String := String.ofList (List.replicate n.toNat '0')

def exponentText (n : Int) : String :=
  if n < 0 then "e-" ++ toString n.natAbs else "e+" ++ toString n.natAbs

def Layout.positive (l : Layout) (d : Decimal) : String :=
  let digits := (toString d.digits).toList
  let point : Int := digits.length + d.exponent
  if 0 ≤ d.exponent ∧ point ≤ l.greatestPoint then
    String.ofList digits ++ zeros d.exponent ++ ".0"
  else if 0 < point ∧ point ≤ l.greatestPoint then
    String.ofList (digits.take point.toNat) ++ "." ++ String.ofList (digits.drop point.toNat)
  else if l.leastPoint ≤ point ∧ point ≤ 0 then
    "0." ++ zeros (-point) ++ String.ofList digits
  else
    match digits with
    | [] => ""
    | [c] => String.ofList [c] ++ exponentText (point - 1)
    | c :: rest => String.ofList (c :: '.' :: rest) ++ exponentText (point - 1)

def Layout.render (l : Layout) (x : Binary64) : String :=
  (if x.isNegative then "-" else "") ++ if x.isZero then "0.0" else l.positive x.shortest

/-- The double nearest a decimal number. Beyond 400 places the outcome is settled. -/
def ofDecimal (negative : Bool) (d : Decimal) : Binary64 :=
  let places : Int := (toString d.digits).length + d.exponent
  if d.digits = 0 ∨ places < -400 then zero negative
  else if 400 < places then infinity negative
  else ofQuotient negative (d.digits * tenTo d.exponent.toNat * one) (tenTo (-d.exponent).toNat)

def digitsValue (ds : List Char) : Nat := ds.foldl (fun n c => 10 * n + (c.toNat - '0'.toNat)) 0

def splitSign : List Char → Bool × List Char
  | '-' :: r => (true, r)
  | '+' :: r => (false, r)
  | r => (false, r)

/-- An exponent part, 0 if there is none. -/
def readExponent? : List Char → Option Int
  | [] => some 0
  | e :: r =>
    if e ≠ 'e' ∧ e ≠ 'E' then none
    else
      let (negative, ds) := splitSign r
      if ds.isEmpty || !ds.all Char.isDigit then none
      else some (if negative then -(digitsValue ds : Int) else digitsValue ds)

/--
A decimal number as text: digits with an optional point, one digit at least, an optional exponent,
or one of the words `inf`, `infinity` and `nan` in any case.
-/
def ofText? (text : String) : Option Binary64 :=
  let (negative, body) := splitSign text.toList
  let lower := String.ofList (body.map Char.toLower)
  if lower = "inf" ∨ lower = "infinity" then some (infinity negative)
  else if lower = "nan" then some nan
  else
    let whole := body.takeWhile Char.isDigit
    let r := body.drop whole.length
    let (fraction, r) := match r with
      | '.' :: r => (r.takeWhile Char.isDigit, r.dropWhile Char.isDigit)
      | r => ([], r)
    if whole.isEmpty && fraction.isEmpty then none
    else
      (readExponent? r).map fun e =>
        ofDecimal negative ⟨digitsValue (whole ++ fraction), e - fraction.length⟩

end GraphQLClient.Binary64
