import GraphQLClient.Binary64.Basic

/-!
Arithmetic on doubles: each result is the exact one, rounded once. Powers by repeated squaring
round after every product, from the lowest bit of the exponent up.
-/

namespace GraphQLClient.Binary64

def mul (x y : Binary64) : Binary64 :=
  let negative := x.isNegative != y.isNegative
  if x.isNaN || y.isNaN || x.isInfinite && y.isZero || x.isZero && y.isInfinite then nan
  else if x.isInfinite || y.isInfinite then infinity negative
  else ofQuotient negative (x.scaled * y.scaled) one

def div (x y : Binary64) : Binary64 :=
  let negative := x.isNegative != y.isNegative
  if x.isNaN || y.isNaN || x.isInfinite && y.isInfinite || x.isZero && y.isZero then nan
  else if x.isInfinite || y.isZero then infinity negative
  else if y.isInfinite then zero negative
  else ofQuotient negative (x.scaled * one) y.scaled

/-- The sum of two finite doubles that are not negative. -/
def addMagnitudes (x y : Binary64) : Binary64 := ofQuotient false (x.scaled + y.scaled) 1

/-- The product so far and the square reached, over the bits of the exponent. -/
def powFrom (product square : Binary64) : Nat → Nat → Binary64
  | 0, _ => product
  | fuel + 1, n =>
    let product := if n % 2 = 1 then product.mul square else product
    if n / 2 = 0 then product else powFrom product (square.mul square) fuel (n / 2)

def pow (x : Binary64) (n : Nat) : Binary64 := powFrom (ofNat 1) x (n.log2 + 1) n

/-- The nearest number that single precision can hold. -/
def toSingle (x : Binary64) : Binary64 :=
  if x.isNaN || x.isInfinite then x
  else
    let step := max (x.scaled.log2 - 23) 925
    let units := nearest x.scaled (1 <<< step) <<< step
    if units < one <<< 128 then ofQuotient x.isNegative units 1 else infinity x.isNegative

end GraphQLClient.Binary64
