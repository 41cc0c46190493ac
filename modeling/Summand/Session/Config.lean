import Summand.Decimal.Literal
import Summand.Evaluation.Interpreter
import Summand.Text.Escape
import Summand.Token.Lexer

/-!
# Configuration

Two settings govern how a program is read and run: the policy for unknown characters and the limit
on the depth of calls.  Both can be set by variables of the environment, as text.  Blanks around the
text do not count.  A variable that is not set leaves its setting as it is; a text that does not
denote a setting is an error, and an error in the policy is reported first.
-/

namespace Summand

/-- How programs are read and run. -/
structure Config where
  onUnknown : UnknownPolicy := default
  callLimit : Nat := defaultCallLimit
deriving DecidableEq

namespace Config

instance : Inhabited Config := ⟨{}⟩

/-- The variable that sets the policy for unknown characters. -/
def policyVariable : String := "ADDLE_RECOVER"

/-- The variable that sets the limit on the depth of calls. -/
def limitVariable : String := "ADDLE_MAX_CALL_DEPTH"

/-- Limits lie below this bound. -/
def limitBound : Nat := Nat.pow 2 64

/-- The policy that a truth value denotes, in any mixture of cases: true is to recover. -/
def policy? (text : String) : Option UnknownPolicy :=
  let word := (Text.trim text).map Char.toLower
  if ["1", "true", "yes"].contains word then some .recover
  else if ["", "0", "false", "no"].contains word then some .halt
  else none

/-- Splits off an optional plus sign. -/
def dropPlus : List Char → List Char
  | '+' :: rest => rest
  | cs => cs

/-- The limit that a decimal number denotes, with an optional plus sign in front. -/
def limit? (text : String) : Option Nat :=
  let digits := dropPlus (Text.trim text).toList
  if !digits.isEmpty && digits.all Char.isDigit && Literal.digitsValue digits < limitBound then
    some (Literal.digitsValue digits)
  else none

/-- What is wrong with a setting, with the text as it was given. -/
inductive Error where
  | notBoolean (text : String)
  | notNatural (text : String)
deriving DecidableEq

namespace Error

/-- The variable that holds the text. -/
def variableName : Error → String
  | .notBoolean _ => policyVariable
  | .notNatural _ => limitVariable

/-- The text as it was given. -/
def value : Error → String
  | .notBoolean text => text
  | .notNatural text => text

/-- What the variable should hold. -/
def expected : Error → String
  | .notBoolean _ => "a boolean"
  | .notNatural _ => "a non-negative integer"

/-- The wording of the error. -/
def message (e : Error) : String :=
  "Invalid value " ++ Text.quoted e.value ++ " for " ++ e.variableName ++ ": expected " ++ e.expected

end Error

/-- Reads one setting: the default if there is no text, and an error if the text denotes nothing. -/
def setting {α : Type} (text? : Option String) (read? : String → Option α) (default : α)
    (error : String → Error) : Except Error α :=
  match text? with
  | none => .ok default
  | some text =>
    match read? text with
    | some setting => .ok setting
    | none => .error (error text)

/-- The configuration that the variables ask for. -/
def ofLookup (lookup : String → Option String) : Except Error Config := do
  let onUnknown ← setting (lookup policyVariable) policy? default .notBoolean
  let callLimit ← setting (lookup limitVariable) limit? defaultCallLimit .notNatural
  return { onUnknown, callLimit }

end Config

end Summand
