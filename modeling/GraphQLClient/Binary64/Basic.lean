/-!
Double precision numbers as their words. A finite magnitude is a whole number of units of
`2⁻¹⁰⁷⁴`, `scaled`, so every operation can compute its exact result in natural numbers and round
once: `ofQuotient` picks the nearest double, a tie going to the even significand.
-/

namespace GraphQLClient

structure Binary64 where
  bits : UInt64
  deriving DecidableEq

namespace Binary64

/-- The place of the sign in a word. -/
def signBit : Nat := 0x8000000000000000

/-- How many words a binade has: the significand has 52 bits behind its leading one. -/
def binade : Nat := 0x10000000000000

def word (x : Binary64) : Nat := x.bits.toNat
def isNegative (x : Binary64) : Bool := signBit ≤ x.word
def magnitude (x : Binary64) : Nat := x.word % signBit
def exponentField (x : Binary64) : Nat := x.magnitude / binade
def fraction (x : Binary64) : Nat := x.word % binade

def isFinite (x : Binary64) : Bool := x.exponentField < 2047
def isNaN (x : Binary64) : Bool := x.exponentField = 2047 && x.fraction ≠ 0
def isInfinite (x : Binary64) : Bool := x.exponentField = 2047 && x.fraction = 0
def isZero (x : Binary64) : Bool := x.magnitude = 0

/-- The significand as a whole number, below `2⁵³`. -/
def significand (x : Binary64) : Nat :=
  if x.exponentField = 0 then x.fraction else binade + x.fraction

/-- One step of the significand is `2 ^ step` units. -/
def step (x : Binary64) : Nat := x.exponentField - 1

/-- A finite magnitude in units of `2⁻¹⁰⁷⁴`. -/
def scaled (x : Binary64) : Nat := x.significand <<< x.step

def one : Nat := 1 <<< 1074
def infinityWord : Nat := 2047 * binade

def ofMagnitude (negative : Bool) (magnitude : Nat) : Binary64 :=
  ⟨UInt64.ofNat ((if negative then signBit else 0) + magnitude)⟩

def infinity (negative : Bool) : Binary64 := ofMagnitude negative infinityWord
def zero (negative : Bool) : Binary64 := ofMagnitude negative 0
def nan : Binary64 := ofMagnitude false (infinityWord + binade / 2)

/-- The whole number nearest a quotient, a tie going to the even one. -/
def nearest (num den : Nat) : Nat :=
  let q := num / den
  let r := num % den
  if 2 * r < den then q else if den < 2 * r then q + 1 else q + q % 2

/--
The double nearest `num / den` units. Since the significand of a normal number starts at `2⁵²`,
adding it to the step's field gives the word, a carry into the next binade included.
-/
def ofQuotient (negative : Bool) (num den : Nat) : Binary64 :=
  let step := (num / den).log2 - 52
  let w := step * binade + nearest num (den <<< step)
  if w < infinityWord then ofMagnitude negative w else infinity negative

def ofNat (n : Nat) : Binary64 := ofQuotient false (n * one) 1

def negate (x : Binary64) : Binary64 := ofMagnitude (!x.isNegative) x.magnitude

/-- Numerical order of the doubles that are numbers; both zeros are 0. -/
def orderKey (x : Binary64) : Int := if x.isNegative then -x.magnitude else x.magnitude

/-- Numerical equality: the zeros are equal, NaN equals nothing. -/
def eqv (x y : Binary64) : Bool := !x.isNaN && !y.isNaN && x.orderKey = y.orderKey

def less (x y : Binary64) : Bool := !x.isNaN && !y.isNaN && x.orderKey < y.orderKey

end Binary64

/-- A double that is neither infinite nor NaN. -/
def Finite64 := { x : Binary64 // x.isFinite = true }
  deriving DecidableEq

namespace Finite64

def ofBinary64? (x : Binary64) : Option Finite64 :=
  if h : x.isFinite = true then some ⟨x, h⟩ else none

/-- Numerical equality, under which the two zeros are the same. -/
def eqv (x y : Finite64) : Bool := x.val.orderKey = y.val.orderKey

end Finite64

end GraphQLClient
