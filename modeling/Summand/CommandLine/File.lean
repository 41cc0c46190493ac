import Summand.CommandLine.Transcript

/-!
# Running a file

The file is read whole and run once.  A file that cannot be read, or that holds no text, is a
failure, and so is a fault of the program in it.
-/

namespace Summand.CommandLine

/-- Why the system refused to read a file. -/
structure ReadError where
  reason : String
  code : Nat
deriving DecidableEq

namespace ReadError

/-- There is no such file. -/
def notFound : ReadError := ⟨"No such file or directory", 2⟩

/-- The name is that of a directory. -/
def isDirectory : ReadError := ⟨"Is a directory", 21⟩

/-- The wording of the error. -/
def message (e : ReadError) : String :=
  e.reason ++ " (os error " ++ toString e.code ++ ")"

end ReadError

/-- The text of a file, or the reason why there is none. -/
def sourceOf (content : Except ReadError (List UInt8)) : Except String String :=
  match content with
  | .error e => .error e.message
  | .ok bytes =>
    match decode? bytes with
    | some source => .ok source
    | none => .error notText

/-- Runs the content of a file. -/
def runFile (palette : Palette) (config : Config) (path : String)
    (content : Except ReadError (List UInt8)) : Transcript :=
  match sourceOf content with
  | .error cause => .failure ("Failed to read " ++ path ++ "\n\nCaused by:\n    " ++ cause)
  | .ok source =>
    match Session.run { config } source with
    | .ok answer => { reply := .ofAnswer palette answer }
    | .error fault => .failure fault.message

end Summand.CommandLine
