import Summand.Session.Config

/-!
# What the command line asks for

The arguments name at most one file to run.  Without a file, lines are read and answered one by one.
The flag `--recover` wins over the environment; of several file names the last counts, and so does
anything that looks like another flag.
-/

namespace Summand.CommandLine

/-- What to run, and how. -/
structure Request where
  config : Config
  /-- The file to run; without one, lines are read. -/
  path? : Option String := none
deriving DecidableEq

namespace Request

/-- The flag that asks to go on behind unknown characters. -/
def recoverFlag : String := "--recover"

/-- Takes one argument into account. -/
def addArgument (request : Request) (argument : String) : Request :=
  if argument = recoverFlag then
    { request with config := { request.config with onUnknown := .recover } }
  else { request with path? := some argument }

/-- What the arguments and the environment ask for. -/
def ofArguments (arguments : List String) (lookup : String → Option String) :
    Except Config.Error Request := do
  let config ← Config.ofLookup lookup
  return arguments.foldl addArgument { config }

end Request

end Summand.CommandLine
