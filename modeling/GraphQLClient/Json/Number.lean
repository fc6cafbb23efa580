import GraphQLClient.Binary64.Arithmetic
import GraphQLClient.Binary64.Decimal

/-!
JSON numbers: whole numbers of 64 bits, signed or unsigned, and finite doubles. A whole number and
a double are never equal, whatever their values.
-/

namespace GraphQLClient

/-- A whole number that a signed or an unsigned word of 64 bits holds. -/
def Integer64 := { n : Int // -0x8000000000000000 ≤ n ∧ n < 0x10000000000000000 }
  deriving DecidableEq

namespace Integer64

def ofInt? (n : Int) : Option Integer64 :=
  if h : -0x8000000000000000 ≤ n ∧ n < 0x10000000000000000 then some ⟨n, h⟩ else none

def ofUInt64 (n : UInt64) : Integer64 := ⟨n.toNat, by have := n.toNat_lt; omega⟩

end Integer64

inductive Number where
  | integer (value : Integer64)
  | float (value : Finite64)
  deriving DecidableEq

namespace Number

def ofNat? (n : Nat) : Option Number := (Integer64.ofInt? n).map .integer

def ofUInt64 (n : UInt64) : Number := .integer (.ofUInt64 n)

/-- The nearest double. -/
def toBinary64 : Number → Binary64
  | .integer n => .ofQuotient (n.val < 0) (n.val.natAbs * Binary64.one) 1
  | .float x => x.val

/-- Doubles are positional from `10⁻⁵` up to, not including, `10¹⁶`. -/
def floatLayout : Binary64.Layout := ⟨-4, 16⟩

def text : Number → String
  | .integer n => toString n.val
  | .float x => floatLayout.render x.val

def eqv : Number → Number → Bool
  | .integer m, .integer n => m = n
  | .float x, .float y => x.eqv y
  | _, _ => false

end Number

end GraphQLClient
