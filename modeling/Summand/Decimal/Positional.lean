import Summand.Decimal.Shortest

/-!
# Positional text

Numbers are written without an exponent, however large or small: all the zeros that the decimal
point asks for are written out, and a whole number has no point at all.
-/

namespace Summand

/-- The decimal with its point in place and no exponent. -/
def Decimal.positional (d : Decimal) : String :=
  let digits := Nat.toDigits 10 d.digits
  let places := (-d.exponent).toNat
  String.ofList <|
    if 0 ≤ d.exponent then digits ++ List.replicate d.exponent.toNat '0'
    else if places < digits.length then
      digits.take (digits.length - places) ++ '.' :: digits.drop (digits.length - places)
    else '0' :: '.' :: List.replicate (places - digits.length) '0' ++ digits

/-- The text of a double-precision number: the fewest digits that read back, in positional form,
with a sign in front of every negative number, zero included. -/
def numberText (x : Float) : String :=
  let bits := x.toBits.toNat
  let fraction := bits % Nat.pow 2 52
  let exponentField := bits / Nat.pow 2 52 % Nat.pow 2 11
  let sign := if bits / Nat.pow 2 63 = 1 then "-" else ""
  if exponentField = 2047 then
    if fraction = 0 then sign ++ "inf" else "NaN"
  else if exponentField = 0 && fraction = 0 then sign ++ "0"
  else sign ++ (Magnitude.ofFields exponentField fraction).shortest.positional

end Summand
