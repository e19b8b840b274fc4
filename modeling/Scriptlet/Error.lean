import Scriptlet.Fault
import Scriptlet.Parser.Error
import Scriptlet.Report.Diagnostic

/-! Errors of a whole input, with their reports. -/
namespace Scriptlet

inductive IoFault where
  | notFound
  | permissionDenied
  | alreadyExists
  | notADirectory
  | isADirectory
  | invalidInput
  | invalidFilename
  | invalidData
  | interrupted
  | unexpectedEof
  | other
  deriving DecidableEq,Repr

def IoFault.message : IoFault → String
  | notFound => "entity not found"
  | permissionDenied => "permission denied"
  | alreadyExists => "entity already exists"
  | notADirectory => "not a directory"
  | isADirectory => "is a directory"
  | invalidInput => "invalid input parameter"
  | invalidFilename => "invalid filename"
  | invalidData => "invalid data"
  | interrupted => "operation interrupted"
  | unexpectedEof => "unexpected end of file"
  | other => "other error"

inductive Error where
  | parse (path source : String) (error : ParseError)
  | runtime (path source : String) (error : RuntimeError)
  | io (fault : IoFault)
  deriving DecidableEq,Repr

namespace Error
open Report

def summary : Error → String
  | parse _ _ _ => "failed to parse source code"
  | runtime _ _ error => "evaluation failed: " ++ error.fault.message
  | io _ => "IO operation failed"

/-- The place a report shows; a source that ends too early is labelled at its very end. -/
def shownSpan (source : String) (error : ParseError) : Span :=
  let length := .ofNat source.utf8ByteSize
  if error.fault = .unexpectedEof then ⟨length,length⟩ else error.span

def diagnostic : Error → Diagnostic
  | parse path source error =>
    ⟨"Syntax error",String.intercalate "\n" error.fault.notes,
      some ⟨source,path,⟨error.fault.message,shownSpan source error⟩⟩⟩
  | runtime path source error =>
    ⟨error.fault.title,"",some ⟨source,path,⟨error.fault.message,error.span⟩⟩⟩
  | io fault => ⟨"Standard IO error",fault.message,none⟩

def markup (error : Error) : Markup := error.diagnostic.markup ++ plainly "\n"

end Error
end Scriptlet
