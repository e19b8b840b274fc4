import Scriptlet.Report.Snippet

/-! Error reports, with the source they are about where it is known. -/
namespace Scriptlet.Report

structure Location where
  source : String
  path : String
  label : Label

structure Diagnostic where
  title : String
  text : String
  location : Option Location

/-- A span that reaches past the end of the source is cut there. -/
def clamp (source : String) (span : Span) : Span :=
  let length := .ofNat source.utf8ByteSize
  ⟨min span.start length,min span.stop length⟩

def Location.markup (location : Location) : Markup :=
  snippet location.source location.path
    ⟨location.label.text,clamp location.source location.label.span⟩

def Diagnostic.markup (diagnostic : Diagnostic) : Markup :=
  let heading := match diagnostic.location with
    | some location =>
      [.style .header,.text "error",.style .message,.text (": " ++ diagnostic.title),.plain]
        ++ lineEnd ++ location.markup ++ lineEnd
    | none =>
      [.style .headerPlain,.text "error",.style .message,
        .text (": " ++ diagnostic.title ++ "\n\n"),.plain]
  heading ++ (if diagnostic.text.isEmpty then [] else plainly (diagnostic.text ++ "\n"))

end Scriptlet.Report
