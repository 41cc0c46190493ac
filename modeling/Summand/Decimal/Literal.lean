/-!
# Number literals

A number is read from decimal digits with an optional point, an optional exponent and an optional
sign.  At least one digit stands before or after the point.  The words for infinity and for a value
that is no number are read as well, in any mixture of cases.
-/

namespace Summand.Literal

/-- The number that a sequence of decimal digits denotes. -/
def digitsValue (digits : List Char) : Nat :=
  digits.foldl (fun value digit => 10 * value + (digit.toNat - '0'.toNat)) 0

@[simp] theorem digitsValue_nil : digitsValue [] = 0 := rfl

/-- A digit at the end counts once, and all digits before it ten times as much as without it. -/
theorem digitsValue_append_singleton (digits : List Char) (digit : Char) :
    digitsValue (digits ++ [digit]) = 10 * digitsValue digits + (digit.toNat - '0'.toNat) := by
  simp [digitsValue]

/-- Splits off an optional sign; the flag says that it is a minus. -/
def splitSign : List Char → Bool × List Char
  | '-' :: rest => (true, rest)
  | '+' :: rest => (false, rest)
  | cs => (false, cs)

/-- The exponent that follows the digits: none at all, or the letter `e` with a signed number. -/
def exponent? : List Char → Option Int
  | [] => some 0
  | mark :: rest =>
    let (negative, digits) := splitSign rest
    if mark.toLower = 'e' && !digits.isEmpty && digits.all Char.isDigit then
      some (if negative then -(digitsValue digits : Int) else digitsValue digits)
    else none

/-- The number nearest to `digits * 10 ^ exponent`. -/
def scaled (digits : Nat) (exponent : Int) : Float :=
  Float.ofScientific digits (exponent < 0) exponent.natAbs

/-- Digits with an optional point, then an optional exponent. -/
def decimal? (cs : List Char) : Option Float :=
  let whole := cs.takeWhile Char.isDigit
  let rest := cs.dropWhile Char.isDigit
  let (fraction, tail) :=
    match rest with
    | '.' :: rest => (rest.takeWhile Char.isDigit, rest.dropWhile Char.isDigit)
    | rest => ([], rest)
  if whole.isEmpty && fraction.isEmpty then none
  else (exponent? tail).map fun exponent =>
    scaled (digitsValue (whole ++ fraction)) (exponent - fraction.length)

/-- The words for infinity and for no number. -/
def special? (cs : List Char) : Option Float :=
  let word := String.ofList (cs.map Char.toLower)
  if word = "inf" || word = "infinity" then some (1.0 / 0.0)
  else if word = "nan" then some (0.0 / 0.0)
  else none

/-- The number that a text denotes, if it denotes one. -/
def number? (text : String) : Option Float :=
  let (negative, rest) := splitSign text.toList
  ((decimal? rest).or (special? rest)).map fun x => if negative then -x else x

end Summand.Literal
