/-!
# Sizes for people to read

A size below one kilobyte is written in bytes. A larger one is written in the largest unit, up
to gigabytes, that leaves at least one, with two places; a half goes to the even neighbour. The
byte count first passes through a number with 53 significant bits, which only shows above
nine quadrillion bytes.
-/

namespace LexisFront.Text

/-- The quotient of two numbers rounded to the nearest number; a half goes to the even one. -/
def roundDiv (numerator denominator : Nat) : Nat :=
  let quotient := numerator / denominator
  let doubled := 2 * (numerator % denominator)
  if doubled < denominator then quotient
  else if denominator < doubled then quotient + 1
  else if quotient % 2 = 0 then quotient
  else quotient + 1

/-- The number nearest to `n` that has at most `bits` significant binary digits. -/
def roundSignificant (bits n : Nat) : Nat :=
  if n < 1 <<< bits then
    n
  else
    let unit := 1 <<< (n.log2 + 1 - bits)
    roundDiv n unit * unit

/-- A quotient with two decimal places. -/
def twoPlaces (numerator denominator : Nat) : String :=
  let hundredths := roundDiv (100 * numerator) denominator
  let cents := hundredths % 100
  s!"{hundredths / 100}." ++ (if cents < 10 then s!"0{cents}" else s!"{cents}")

/-- A number of bytes in the unit that suits it. -/
def humanSize (bytes : Nat) : String :=
  let size := roundSignificant 53 bytes
  if size < 1024 then s!"{bytes} B"
  else if size < 1024 * 1024 then twoPlaces size 1024 ++ " KB"
  else if size < 1024 * 1024 * 1024 then twoPlaces size (1024 * 1024) ++ " MB"
  else twoPlaces size (1024 * 1024 * 1024) ++ " GB"

end LexisFront.Text
