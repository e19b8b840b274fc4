/-! Coloured text as a sequence of marks, written plainly or with terminal codes. -/
namespace Scriptlet.Report

inductive Style where
  | header
  | headerPlain
  | message
  | border
  | label
  | success
  deriving DecidableEq,Repr

inductive Mark where
  | text (content : String)
  | style (chosen : Style)
  | plain
  deriving DecidableEq,Repr

abbrev Markup := List Mark

namespace Style

def resetCode : String := "\x1b[0m"

def code : Style → String
  | header => "\x1b[1m\x1b[38;5;9m"
  | headerPlain => "\x1b[1m\x1b[31m"
  | message => "\x1b[1m"
  | border => "\x1b[34m"
  | label => "\x1b[31m"
  | success => "\x1b[1m\x1b[38;5;10m"

end Style

def Mark.plainText : Mark → String
  | .text content => content
  | _ => ""

def Mark.ansiText : Mark → String
  | .text content => content
  | .style chosen => Style.resetCode ++ chosen.code
  | .plain => Style.resetCode

namespace Markup

def plainText (markup : Markup) : String := String.join (markup.map Mark.plainText)

def ansiText (markup : Markup) : String := String.join (markup.map Mark.ansiText)

def render (markup : Markup) (colour : Bool) : String :=
  if colour then ansiText markup else plainText markup

end Markup

def painted (style : Style) (content : String) : Markup := [.style style,.text content,.plain]

def plainly (content : String) : Markup := [.text content]

end Scriptlet.Report
