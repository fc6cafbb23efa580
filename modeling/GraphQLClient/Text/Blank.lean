/-!
White space as Unicode defines the property `White_Space`, and trimming by it.
-/

namespace GraphQLClient.Text

/-- The members of `White_Space`. -/
def blanks : List Nat :=
  [0x09, 0x0A, 0x0B, 0x0C, 0x0D, 0x20, 0x85, 0xA0, 0x1680, 0x2000, 0x2001, 0x2002, 0x2003, 0x2004,
    0x2005, 0x2006, 0x2007, 0x2008, 0x2009, 0x200A, 0x2028, 0x2029, 0x202F, 0x205F, 0x3000]

def isBlank (c : Char) : Bool := blanks.contains c.toNat

def trimEnd (p : Char → Bool) (cs : List Char) : List Char := (cs.reverse.dropWhile p).reverse

/-- A text without the white space at its two ends. -/
def trim (s : String) : String := String.ofList (trimEnd isBlank (s.toList.dropWhile isBlank))

end GraphQLClient.Text
