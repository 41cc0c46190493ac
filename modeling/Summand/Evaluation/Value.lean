import Summand.Decimal.Positional
import Summand.Program.Basic

/-!
# Values

A value is a number, a function or undefined.  Only numbers can be added; everything else counts as
no number.
-/

namespace Summand

/-- What an expression can come to. -/
inductive Value where
  | number (x : Float)
  | function (name : String) (body : List Stmt)
  | undefined

instance : Inhabited Value := ⟨.undefined⟩

namespace Value

/-- The value that is not a number, as a number. -/
def notANumber : Float := 0.0 / 0.0

/-- The number, if the value is one. -/
def number? : Value → Option Float
  | .number x => some x
  | _ => none

/-- The value in an addition: a number is itself, anything else is no number. -/
def toNumber (v : Value) : Float :=
  v.number?.getD notANumber

/-- The value is undefined. -/
def isUndefined : Value → Bool
  | .undefined => true
  | _ => false

/-- The value is a number that is no number. -/
def isNaN : Value → Bool
  | .number x => x.isNaN
  | _ => false

/-- Numbers are equal as numbers, so that zero equals its negative and no number equals nothing;
functions are equal when name and body are. -/
def same : Value → Value → Bool
  | .number x, .number y => x == y
  | .function name body, .function name' body' => name == name' && body == body'
  | .undefined, .undefined => true
  | _, _ => false

instance : BEq Value := ⟨same⟩

/-- The value as it is printed. -/
def text : Value → String
  | .number x => numberText x
  | .function name _ => "<fn " ++ name ++ ">"
  | .undefined => "undefined"

end Value

end Summand
