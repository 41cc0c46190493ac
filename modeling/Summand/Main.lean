import Summand.CommandLine.Basic

/-!
# The program

The outermost layer: it looks at the arguments and the environment, reads files and lines, and
writes what the command line makes of them.
-/

namespace Summand.CommandLine

/-- The system's account of an error, as far as it gives one. -/
def ReadError.ofIO : IO.Error → ReadError
  | .noFileOrDirectory _ code reason => ⟨reason, code.toNat⟩
  | .inappropriateType _ code reason => ⟨reason, code.toNat⟩
  | .permissionDenied _ code reason => ⟨reason, code.toNat⟩
  | .invalidArgument _ code reason => ⟨reason, code.toNat⟩
  | .otherError code reason => ⟨reason, code.toNat⟩
  | e => ⟨toString e, 0⟩

/-- Reads the bytes of a file. -/
def readBytes (path : String) : IO (Except ReadError (List UInt8)) := do
  try
    return .ok (← IO.FS.withFile path .read fun handle => handle.readBinToEnd).toList
  catch e => return .error (.ofIO e)

/-- Reads the bytes up to the next line feed and including it; none are left at the end. -/
def readRawLine (stream : IO.FS.Stream) : IO (List UInt8) := do
  let mut bytes : Array UInt8 := #[]
  repeat
    let byte ← stream.read 1
    bytes := bytes ++ byte.data
    if byte.isEmpty || byte.data == #[0x0A] then break
  return bytes.toList

/-- Writes text to the two streams. -/
def write (reply : Reply) : IO Unit := do
  let stderr ← IO.getStderr
  stderr.putStr reply.errors
  stderr.flush
  let stdout ← IO.getStdout
  stdout.putStr reply.output
  stdout.flush

/-- Answers lines until there are no more. -/
def converse (palette : Palette) (config : Config) : IO Nat := do
  let stdin ← IO.getStdin
  let mut dialogue := Dialogue.start config
  write dialogue.transcript.reply
  repeat
    match lines (← readRawLine stdin) with
    | [] => break
    | line :: _ =>
      let fresh := { dialogue with transcript := { reply := {} } }
      dialogue := fresh.read palette line
      write dialogue.transcript.reply
      if dialogue.broken then break
  return dialogue.transcript.code

/-- Reads the variables that the program looks at. -/
def readVariables : IO (String → Option String) := do
  let names := [Config.policyVariable, Config.limitVariable, Palette.variableName]
  let found ← names.mapM fun name => return (name, ← IO.getEnv name)
  return fun name => (found.lookup name).join

end Summand.CommandLine

open Summand.CommandLine in
/-- Runs a file or answers lines. -/
def main (arguments : List String) : IO UInt32 := do
  let lookup ← readVariables
  let palette := Palette.ofLookup lookup
  match Request.ofArguments arguments lookup with
  | .error e =>
    let transcript := Transcript.failure e.message
    write transcript.reply
    return transcript.code.toUInt32
  | .ok request =>
    match request.path? with
    | some path =>
      let transcript := runFile palette request.config path (← readBytes path)
      write transcript.reply
      return transcript.code.toUInt32
    | none => return (← converse palette request.config).toUInt32
