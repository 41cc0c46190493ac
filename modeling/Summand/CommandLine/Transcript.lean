import Summand.Session.Basic

/-!
# What the command line writes

Values go to the output, and everything else to the error stream: warnings, the faults of single
lines, and the failure that ends the program, if there is one.

Warnings and faults are labelled.  Codes around a label may ask the terminal for colour, and which
codes these are is not settled here: a `Palette` gives them, and all that is known of them is that they
end no line.
-/

namespace Summand.CommandLine

/-- Text for the two streams. -/
structure Reply where
  output : String := ""
  errors : String := ""
deriving DecidableEq

/-- One reply and then another. -/
def Reply.append (first second : Reply) : Reply :=
  ⟨first.output ++ second.output, first.errors ++ second.errors⟩

instance : Append Reply := ⟨Reply.append⟩

/-- Everything that a run of the program writes, and the code that it ends with. -/
structure Transcript where
  reply : Reply
  code : Nat := 0
deriving DecidableEq

/-- The program has failed. -/
def Transcript.failure (message : String) : Transcript :=
  { reply := { errors := "Error: " ++ message ++ "\n" }, code := 1 }

/-! ### Labels -/

/-- The codes in front of a label and behind it. -/
structure Style where
  opening : String := ""
  closing : String := ""
  isLineEnd_opening : ∀ c ∈ opening.toList, Text.isLineEnd c = false := by decide
  isLineEnd_closing : ∀ c ∈ closing.toList, Text.isLineEnd c = false := by decide

/-- A label between its codes. -/
def Style.label (style : Style) (text : String) : String :=
  style.opening ++ text ++ style.closing

/-- The styles of the two labels. -/
structure Palette where
  warning : Style
  error : Style

namespace Palette

/-- Labels without codes. -/
def bare : Palette where
  warning := {}
  error := {}

/-- The escape codes for bold labels in yellow and in red. -/
def coloured : Palette where
  warning := { opening := "\x1b[33m\x1b[1m", closing := "\x1b[0m" }
  error := { opening := "\x1b[31m\x1b[1m", closing := "\x1b[0m" }

/-- The variable that asks for colour where there is no terminal. -/
def variableName : String := "CLICOLOR_FORCE"

/-- The palette where there is no terminal: labels are bare unless the variable is set to anything but
zero. -/
def ofLookup (lookup : String → Option String) : Palette :=
  if (lookup variableName).any (· ≠ "0") then coloured else bare

end Palette

/-- The line for a remark. -/
def warningLine (palette : Palette) (d : Diagnostic) : String :=
  palette.warning.label "warning:" ++ " " ++ d.text ++ "\n"

/-- The line for a fault. -/
def faultLine (palette : Palette) (fault : Fault) : String :=
  palette.error.label "error:" ++ " " ++ fault.message ++ "\n"

/-- A value on the output, and the remarks on the error stream. -/
def Reply.ofAnswer (palette : Palette) (answer : Answer) : Reply :=
  { output := answer.value.text ++ "\n"
    errors := String.join (answer.diagnostics.map (warningLine palette)) }

/-! ### Text from outside -/

/-- The wording for bytes that are not the UTF-8 encoding of a text. -/
def notText : String := "stream did not contain valid UTF-8"

/-- The text that is encoded in bytes. -/
def decode? (bytes : List UInt8) : Option String :=
  String.fromUTF8? ⟨bytes.toArray⟩

end Summand.CommandLine
