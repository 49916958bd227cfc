import LexisFront.Text.LetterCase

/-!
# Lower-case text

Lower-casing replaces each character by its lower-case form. Two characters are special: the
dotted capital I becomes two characters, and a capital sigma that ends a word becomes the final
form of the letter. A sigma ends a word when the nearest character before it that matters is a
cased letter and the nearest one after it is not.
-/

namespace LexisFront.Text

/-- Whether a character is a cased letter. -/
def isCased (c : Char) : Bool :=
  CodeRange.anyContains casedRanges c

/-- Whether a character is skipped when the nearest cased letter is looked for. -/
def isCaseIgnorable (c : Char) : Bool :=
  CodeRange.anyContains caseIgnorableRanges c

/-- The lower-case form of one character, without regard to its neighbours. -/
def lowerChar (c : Char) : List Char :=
  if c = 'İ' then
    ['i', '\u0307']
  else
    [Char.ofNat ((lowercaseRuns.findSome? (·.lower? c.toNat)).getD c.toNat)]

/-- Whether the first character that matters is a cased letter. -/
def meetsCased (text : List Char) : Bool :=
  match text.dropWhile isCaseIgnorable with
  | [] => false
  | c :: _ => isCased c

/-- The lower-case form of a capital sigma between the reversed text before it and the text
after it. -/
def lowerSigma (before after : List Char) : Char :=
  if meetsCased before && !meetsCased after then 'ς' else 'σ'

/-- Lower-cases a text whose preceding characters, reversed, are `before`. -/
def lowerAfter (before : List Char) : List Char → List Char
  | [] => []
  | c :: after =>
    (if c = 'Σ' then [lowerSigma before after] else lowerChar c) ++ lowerAfter (c :: before) after

/-- The lower-case form of a text. -/
def lowercase (text : String) : String :=
  String.ofList (lowerAfter [] text.toList)

end LexisFront.Text
