import ExportWatch.CommandLine.Grammar

/-! What is said about a command line that is not carried out. -/

namespace ExportWatch.CommandLine

def programName : String :=
  "hot-export"

def programVersion : String :=
  "0.1.0"

def usage : String :=
  "Usage: " ++ programName ++
    " [OPTIONS] <validate|jobs|job|runs|watch|rerun|cancel|history> [ARGUMENTS]"

namespace UsageFault

/-- Someone who asks for help or for the version has made no mistake. -/
def isMistake : UsageFault → Bool
  | help | version => false
  | _ => true

def text : UsageFault → String
  | unknownArgument => "error: unexpected argument"
  | unknownCommand => "error: unrecognized subcommand"
  | badValue => "error: invalid value"
  | missingCommand => "error: a subcommand is required"
  | missingArgument => "error: a required argument was not provided"
  | repeated => "error: an option was given more than once"
  | unneededValue => "error: a flag takes no value"
  | refusedValue message => "error: invalid value: " ++ message
  | help | helpForLackOfArguments => usage
  | version => programName ++ " " ++ programVersion

end UsageFault

end ExportWatch.CommandLine
