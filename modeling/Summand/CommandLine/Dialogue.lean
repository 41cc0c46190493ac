import Summand.CommandLine.Transcript

/-!
# Dialogues

Without a file, the program reads lines and answers each of them, with a prompt in front of every
line.  The lines share their bindings.  A fault concerns its line only; bytes that are no text end
the dialogue.
-/

namespace Summand.CommandLine

/-- The lines of an input. A line ends at a line feed, and a carriage return right in front of it
belongs to the end; bytes behind the last line feed are a line as well. -/
def lines : List UInt8 → List (List UInt8)
  | [] => []
  | 0x0A :: rest => [] :: lines rest
  | 0x0D :: 0x0A :: rest => [] :: lines rest
  | byte :: rest =>
    match lines rest with
    | [] => [[byte]]
    | line :: more => (byte :: line) :: more

/-- The prompt in front of a line. -/
def prompt : String := "> "

/-- Answers one line. -/
def respond (palette : Palette) (session : Session) (source : String) : Reply × Session :=
  let (answer, after) := session.extend source
  match answer with
  | .ok answer => (.ofAnswer palette answer, after)
  | .error fault => ({ errors := faultLine palette fault }, after)

/-- Where a dialogue stands. -/
structure Dialogue where
  session : Session
  transcript : Transcript
  /-- Bytes that are no text have ended the dialogue. -/
  broken : Bool := false

namespace Dialogue

/-- The dialogue in front of its first line. -/
def start (config : Config) : Dialogue :=
  { session := { config }, transcript := { reply := { output := prompt } } }

/-- Reads one line and answers it. -/
def read (palette : Palette) (d : Dialogue) (line : List UInt8) : Dialogue :=
  if d.broken then d
  else
    match decode? line with
    | none =>
      let failure := Transcript.failure notText
      { d with
        transcript := { failure with reply := d.transcript.reply ++ failure.reply }
        broken := true }
    | some source =>
      let (reply, session) := respond palette d.session source
      { d with
        session
        transcript :=
          { d.transcript with reply := d.transcript.reply ++ reply ++ { output := prompt } } }

end Dialogue

/-- The whole dialogue on an input. -/
def runDialogue (palette : Palette) (config : Config) (input : List UInt8) : Transcript :=
  ((lines input).foldl (Dialogue.read palette) (Dialogue.start config)).transcript

end Summand.CommandLine
