import Scriptlet.Command.Arguments

/-! What the command line says about itself. -/
namespace Scriptlet

def Loop.command : Loop → String
  | evaluate => "repl"
  | lex => "rlpl"
  | parse => "rppl"

def Loop.about : Loop → String
  | evaluate => "Runs Read Eval Print Loop"
  | lex => "Runs Read Lex Print Loop"
  | parse => "Runs Read Parse Print Loop"

namespace Topic

def usage : Topic → String
  | program => "Usage: ember [OPTIONS] <COMMAND>\n"
  | run => "Usage: ember run [OPTIONS] <PATH>\n"
  | loop kind => "Usage: ember " ++ kind.command ++ " [OPTIONS]\n"

def runAbout : String := "Parses and evaluates a source file, printing the last value"

def verboseAbout : String := "Log interpreter events at debug level (RUST_LOG takes precedence)"

def help : Topic → String
  | program => "Interpreter for a small expression language\n\n" ++ program.usage
      ++ "\nCommands:\n  run   " ++ runAbout ++ "\n  repl  " ++ Loop.evaluate.about
      ++ "\n  rlpl  " ++ Loop.lex.about ++ "\n  rppl  " ++ Loop.parse.about
      ++ "\n  help  Print this message or the help of the given subcommand(s)\n"
      ++ "\nOptions:\n  -v, --verbose  " ++ verboseAbout
      ++ "\n  -h, --help     Print help\n  -V, --version  Print version\n"
  | run => runAbout ++ "\n\n" ++ run.usage ++ "\nArguments:\n  <PATH>  Path of source file\n"
      ++ "\nOptions:\n      --print-ast  Print ast before evaluating\n  -v, --verbose    "
      ++ verboseAbout ++ "\n  -h, --help       Print help\n"
  | loop kind => kind.about ++ "\n\n" ++ (Topic.loop kind).usage
      ++ "\nOptions:\n  -v, --verbose  " ++ verboseAbout ++ "\n  -h, --help     Print help\n"

end Topic

namespace Refusal

def footer : String := "\nFor more information, try '--help'.\n"

def pathTip (topic : Topic) (argument : String) : String :=
  if topic = .run && argument.toList.head? = some '-' then
    "  tip: to pass '" ++ argument ++ "' as a value, use '-- " ++ argument ++ "'\n\n"
  else ""

def message : Refusal → String
  | noArguments => Topic.program.help
  | noSubcommand => "error: 'ember' requires a subcommand but one was not provided\n"
      ++ "  [subcommands: run, repl, rlpl, rppl, help]\n\n" ++ Topic.program.usage ++ footer
  | unknownSubcommand name => "error: unrecognized subcommand '" ++ name ++ "'\n\n"
      ++ Topic.program.usage ++ footer
  | afterDoubleDash name => "error: unexpected argument '" ++ name ++ "' found\n\n"
      ++ "  tip: subcommand '" ++ name ++ "' exists; to use it, remove the '--' before it\n\n"
      ++ Topic.program.usage ++ footer
  | unexpected topic argument => "error: unexpected argument '" ++ argument ++ "' found\n\n"
      ++ pathTip topic argument ++ topic.usage ++ footer
  | repeated topic flag => "error: the argument '" ++ flag ++ "' cannot be used multiple times\n\n"
      ++ topic.usage ++ footer
  | unwantedValue topic flag value => "error: unexpected value '" ++ value ++ "' for '" ++ flag
      ++ "' found; no more were expected\n\n" ++ topic.usage ++ footer
  | noPath operands => "error: the following required arguments were not provided:\n  <PATH>\n\n"
      ++ "Usage: ember run " ++ (if operands.printTree then "--print-ast " else "")
      ++ (if operands.verbose then "--verbose " else "") ++ "<PATH>\n" ++ footer
  | emptyPath => "error: a value is required for '<PATH>' but none was supplied\n" ++ footer

end Refusal
end Scriptlet
