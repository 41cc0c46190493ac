import Summand.CommandLine.Dialogue
import Summand.CommandLine.File
import Summand.CommandLine.Request

/-!
# The command line as a function

All that the program does is settled by its arguments, its variables, its input, the files that it
can read and the way labels are written.

The log is left out.  Its events are all meant for debugging, so nothing is logged unless the variable
`ADDLE_LOG` asks for it.  What is logged then stands on the error stream between the lines of the
transcript and changes none of them.
-/

namespace Summand.CommandLine

/-- What a run of the program can see. -/
structure Surroundings where
  arguments : List String
  lookup : String → Option String
  input : List UInt8
  file : String → Except ReadError (List UInt8)
  /-- How labels are written is up to the terminal.  Without one, a variable settles it. -/
  palette : Palette := .ofLookup lookup

/-- What a run of the program writes besides its log. -/
def run (seen : Surroundings) : Transcript :=
  match Request.ofArguments seen.arguments seen.lookup with
  | .error e => .failure e.message
  | .ok request =>
    match request.path? with
    | some path => runFile seen.palette request.config path (seen.file path)
    | none => runDialogue seen.palette request.config seen.input

end Summand.CommandLine
