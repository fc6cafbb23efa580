/-!
UTF-8 over lists of bytes. `pieces` cuts any byte string into characters and the longest
malformed runs that no longer sequence could begin with; strict reading and reading with
replacement characters are two views of the same cut.
-/

namespace GraphQLClient

abbrev Bytes := List UInt8

namespace Text.Utf8

def encodeChars (cs : List Char) : Bytes := cs.flatMap String.utf8EncodeChar

def encode (s : String) : Bytes := encodeChars s.toList

/-- What a lead byte announces: how many bytes follow, and the bounds of the first of them. -/
structure Lead where
  followers : Nat
  low : Nat
  high : Nat

def lead? (a : Nat) : Option Lead :=
  if 0xC2 ≤ a ∧ a ≤ 0xDF then some ⟨1, 0x80, 0xBF⟩
  else if a = 0xE0 then some ⟨2, 0xA0, 0xBF⟩
  else if a = 0xED then some ⟨2, 0x80, 0x9F⟩
  else if 0xE1 ≤ a ∧ a ≤ 0xEF then some ⟨2, 0x80, 0xBF⟩
  else if a = 0xF0 then some ⟨3, 0x90, 0xBF⟩
  else if 0xF1 ≤ a ∧ a ≤ 0xF3 then some ⟨3, 0x80, 0xBF⟩
  else if a = 0xF4 then some ⟨3, 0x80, 0x8F⟩
  else none

def isFollower (b : Nat) : Bool := 0x80 ≤ b && b ≤ 0xBF

def join2 (a b : Nat) : Char := Char.ofNat (a % 0x20 * 0x40 + b % 0x40)
def join3 (a b c : Nat) : Char := Char.ofNat (a % 0x10 * 0x1000 + b % 0x40 * 0x40 + c % 0x40)
def join4 (a b c d : Nat) : Char :=
  Char.ofNat (a % 8 * 0x40000 + b % 0x40 * 0x1000 + c % 0x40 * 0x40 + d % 0x40)

/-- The characters of a byte string in order, `none` standing for one malformed run. -/
def pieces : Bytes → List (Option Char)
  | [] => []
  | a :: r =>
    if a.toNat < 0x80 then some (Char.ofNat a.toNat) :: pieces r
    else
      match lead? a.toNat with
      | none => none :: pieces r
      | some l =>
        match r with
        | [] => [none]
        | b :: r₁ =>
          if l.low ≤ b.toNat ∧ b.toNat ≤ l.high then
            if l.followers = 1 then some (join2 a.toNat b.toNat) :: pieces r₁
            else
              match r₁ with
              | [] => [none]
              | c :: r₂ =>
                if isFollower c.toNat then
                  if l.followers = 2 then some (join3 a.toNat b.toNat c.toNat) :: pieces r₂
                  else
                    match r₂ with
                    | [] => [none]
                    | d :: r₃ =>
                      if isFollower d.toNat then
                        some (join4 a.toNat b.toNat c.toNat d.toNat) :: pieces r₃
                      else none :: pieces (d :: r₃)
                else none :: pieces (c :: r₂)
          else none :: pieces (b :: r₁)

/-- The text that a byte string spells, if it is well formed throughout. -/
def decode? (bytes : Bytes) : Option String :=
  (pieces bytes).mapM id |>.map String.ofList

/-- The text that a byte string spells, a replacement character for each malformed run. -/
def decodeLossy (bytes : Bytes) : String :=
  String.ofList ((pieces bytes).map (·.getD '\uFFFD'))

end Text.Utf8

end GraphQLClient
