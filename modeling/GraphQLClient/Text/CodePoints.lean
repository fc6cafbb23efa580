import GraphQLClient.Text.Hex

/-!
Tables over code points. A table is written in words: `41-5A` is a run of code points, `100-12E/2`
every second one of a run, and `1C4=64,17E` says what belongs to the first of a run. The words stand
in the order of their code points, so that a row is found by halving.
-/

namespace GraphQLClient.Text

/-- Every `step`-th code point from `first` to `last`, and what belongs to the first. -/
structure CodePointRun where
  first : Nat
  last : Nat
  step : Nat := 1
  image : List Nat := []

namespace CodePointRun

def contains (r : CodePointRun) (n : Nat) : Bool :=
  r.first ≤ n && n ≤ r.last && (n - r.first) % r.step = 0

/-- What belongs to a code point of the run: as far above the image as it is above the first. -/
def imageOf (r : CodePointRun) (n : Nat) : List Char :=
  r.image.map fun m => Char.ofNat (m + (n - r.first))

def hexNumber (digits : String) : Nat :=
  digits.toList.foldl (fun n c => 16 * n + (Hex.value? c).getD 0) 0

/-- The run that the part of a word before its image stands for. -/
def ofBounds (bounds : String) : CodePointRun :=
  match bounds.splitToList (· = '-') with
  | [first, last] =>
    match last.splitToList (· = '/') with
    | [last, step] => { first := hexNumber first, last := hexNumber last, step := hexNumber step }
    | _ => { first := hexNumber first, last := hexNumber last }
  | _ => { first := hexNumber bounds, last := hexNumber bounds }

def ofWord (word : String) : CodePointRun :=
  match word.splitToList (· = '=') with
  | [bounds, image] => { ofBounds bounds with image := (image.splitToList (· = ',')).map hexNumber }
  | _ => ofBounds word

end CodePointRun

abbrev CodePoints := Array CodePointRun

namespace CodePoints

def ofText (text : String) : CodePoints :=
  (((text.splitToList Char.isWhitespace).filter (· ≠ "")).map CodePointRun.ofWord).toArray

/-- The row among those from `low` to before `high` that a code point lies in. -/
def search (t : CodePoints) (n low high : Nat) : Option CodePointRun :=
  if low < high then
    match t[(low + high) / 2]? with
    | none => none
    | some r =>
      if n < r.first then search t n low ((low + high) / 2)
      else if r.last < n then search t n ((low + high) / 2 + 1) high
      else if r.contains n then some r
      else none
  else none
termination_by high - low

def contains (t : CodePoints) (c : Char) : Bool := (t.search c.toNat 0 t.size).isSome

/-- What belongs to a character. -/
def image? (t : CodePoints) (c : Char) : Option (List Char) :=
  (t.search c.toNat 0 t.size).map (·.imageOf c.toNat)

end CodePoints

end GraphQLClient.Text
