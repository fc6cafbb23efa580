import GraphQLClient.Text.Normalization.CombiningClass
import GraphQLClient.Text.Normalization.Decomposition

/-!
The composed normal form of a text (`NFC`): every character is taken apart, the marks on a letter
are brought into the order of their classes, and what composition makes is put together again.
Texts that are written differently for the same characters have one normal form.
-/

namespace GraphQLClient.Text.Normalization

/-- Puts a character before an ordered text; a mark goes behind those of lower classes. -/
def insertMark (c : Char) : List Char → List Char
  | [] => [c]
  | d :: rest =>
    if 0 < combiningClass d && combiningClass d < combiningClass c then d :: insertMark c rest
    else c :: d :: rest

def orderMarks (cs : List Char) : List Char := cs.foldr insertMark []

/--
Composes a letter with the marks behind it. The marks that are passed over stand in reverse order;
one of them that is not of a lower class keeps a mark from the letter.
-/
def composeOnto (letter : Char) (passed : List Char) : List Char → List Char
  | [] => letter :: passed.reverse
  | c :: rest =>
    let free := passed.head?.all (combiningClass · < combiningClass c)
    match if free then composite? letter c else none with
    | some d => composeOnto d passed rest
    | none =>
      if combiningClass c = 0 then letter :: passed.reverse ++ composeOnto c [] rest
      else composeOnto letter (c :: passed) rest

def compose : List Char → List Char
  | [] => []
  | c :: rest => if combiningClass c = 0 then composeOnto c [] rest else c :: compose rest

/-- The composed normal form. -/
def composed (cs : List Char) : List Char := compose (orderMarks (cs.flatMap decompose))

end GraphQLClient.Text.Normalization
