import Scriptlet.Console

/-! The command line: what its arguments ask for, or why they are refused. Arguments are read
in order, so the first that asks for help or is wrong decides. -/
namespace Scriptlet

inductive Topic where
  | program
  | run
  | loop (kind : Loop)
  deriving DecidableEq,Repr

inductive Request where
  | version
  | help (topic : Topic)
  | run (path : String) (printTree : Bool)
  | loop (loop : Loop)
  deriving DecidableEq,Repr

structure Command where
  verbose : Bool
  request : Request
  deriving DecidableEq,Repr

structure Operands where
  verbose : Bool
  printTree : Bool
  path : Option String
  deriving DecidableEq,Repr

inductive Refusal where
  | noArguments
  | noSubcommand
  | unknownSubcommand (name : String)
  | afterDoubleDash (name : String)
  | unexpected (topic : Topic) (argument : String)
  | repeated (topic : Topic) (flag : String)
  | unwantedValue (topic : Topic) (flag value : String)
  | noPath (operands : Operands)
  | emptyPath
  deriving DecidableEq,Repr

namespace Command

def nothing : Operands := ⟨false,false,.none⟩

inductive Progress where
  | more (operands : Operands)
  | done (result : Except Refusal Command)

def settle (operands : Operands) (request : Request) : Progress :=
  .done (.ok ⟨operands.verbose,request⟩)

def setVerbose (topic : Topic) (operands : Operands) : Progress :=
  if operands.verbose then .done (.error (.repeated topic "--verbose"))
  else .more {operands with verbose := true}

def setPrintTree (topic : Topic) (operands : Operands) : Progress :=
  if operands.printTree then .done (.error (.repeated topic "--print-ast"))
  else .more {operands with printTree := true}

def shortFlags (topic : Topic) : Operands → List Char → Progress
  | operands,[] => .more operands
  | operands,letter :: rest =>
    if letter = 'v' then
      match setVerbose topic operands with
      | .more operands => shortFlags topic operands rest
      | progress => progress
    else if letter = 'h' then settle operands (.help topic)
    else if letter = 'V' && topic = .program then settle operands .version
    else .done (.error (.unexpected topic (String.ofList ['-',letter])))

def longFlag (topic : Topic) (operands : Operands) (text : String) : Progress :=
  let name := String.ofList (text.toList.takeWhile (· != '='))
  let value := (text.toList.dropWhile (· != '=')).tail
  let plain (progress : Progress) : Progress :=
    if name = text then progress
    else .done (.error (.unwantedValue topic ("--" ++ name) (String.ofList value)))
  if name = "verbose" then plain (setVerbose topic operands)
  else if name = "help" then plain (settle operands (.help topic))
  else if name = "version" && topic = .program then plain (settle operands .version)
  else if name = "print-ast" && topic = .run then plain (setPrintTree topic operands)
  else .done (.error (.unexpected topic ("--" ++ name)))

/-- Reads an argument as options; a single dash is none. -/
def options? (topic : Topic) (operands : Operands) (argument : String) : Option Progress :=
  match argument.toList with
  | '-' :: '-' :: name => some (longFlag topic operands (String.ofList name))
  | '-' :: letter :: letters => some (shortFlags topic operands (letter :: letters))
  | _ => none

def setPath (topic : Topic) (operands : Operands) (argument : String) :
    Except Refusal Operands :=
  if topic != .run || operands.path.isSome then .error (.unexpected topic argument)
  else if argument.isEmpty then .error .emptyPath
  else .ok {operands with path := some argument}

def requestFor (topic : Topic) (operands : Operands) : Except Refusal Request :=
  match topic with
  | .run =>
    match operands.path with
    | some path => .ok (.run path operands.printTree)
    | none => .error (.noPath operands)
  | .loop loop => .ok (.loop loop)
  | .program => .error .noSubcommand

/-- Reads the arguments after a subcommand; no options follow a double dash. -/
def readOperands (topic : Topic) :
    Bool → Operands → List String → Except Refusal Command
  | _,operands,[] => do
    let request ← requestFor topic operands
    return ⟨operands.verbose,request⟩
  | ended,operands,argument :: rest =>
    if !ended && argument = "--" then readOperands topic true operands rest
    else
      match if ended then none else options? topic operands argument with
      | some (.done result) => result
      | some (.more operands) => readOperands topic ended operands rest
      | none => do
        let operands ← setPath topic operands argument
        readOperands topic ended operands rest

def topic? : String → Option Topic
  | "run" => some .run
  | "repl" => some (.loop .evaluate)
  | "rlpl" => some (.loop .lex)
  | "rppl" => some (.loop .parse)
  | _ => none

def helpTopic : List String → Except Refusal Topic
  | [] => .ok .program
  | name :: rest =>
    match topic? name,rest with
    | some topic,[] => .ok topic
    | some _,other :: _ => .error (.unknownSubcommand other)
    | none,_ => .error (.unknownSubcommand name)

def readProgram : Operands → List String → Except Refusal Command
  | operands,[] => .error (if operands.verbose then .noSubcommand else .noArguments)
  | operands,argument :: rest =>
    match topic? argument with
    | some topic => do
      let command ← readOperands topic false nothing rest
      return {command with verbose := operands.verbose || command.verbose}
    | none =>
      if argument = "help" then do
        let topic ← helpTopic rest
        return ⟨operands.verbose,.help topic⟩
      else if argument = "--" then
        match rest with
        | [] => readProgram operands []
        | name :: _ =>
          .error (if (topic? name).isSome || name = "help" then .afterDoubleDash name
            else .unknownSubcommand name)
      else
        match options? .program operands argument with
        | some (.done result) => result
        | some (.more operands) => readProgram operands rest
        | none => .error (.unknownSubcommand argument)

def ofArguments (arguments : List String) : Except Refusal Command :=
  readProgram nothing arguments

end Command
end Scriptlet
