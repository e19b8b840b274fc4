import Scriptlet.Main
import Scriptlet.Toolkit
import Scriptlet.Proofs.Grammar
import Scriptlet.Proofs.Lexer.Scan
import Scriptlet.Proofs.Lexer.Spelling
import Scriptlet.Proofs.Parser.Steps
import Scriptlet.Proofs.Parser.Takes
import Scriptlet.Proofs.Parser.Soundness
import Scriptlet.Proofs.Parser.Levels
import Scriptlet.Proofs.Parser.Bound
import Scriptlet.Proofs.Parser.Rules
import Scriptlet.Proofs.Parser.Completeness
import Scriptlet.Proofs.Parser.Language
import Scriptlet.Proofs.Parser.Lockstep
import Scriptlet.Proofs.Parser.Entries
import Scriptlet.Proofs.Store.Touch
import Scriptlet.Proofs.Store.Chain
import Scriptlet.Proofs.Store.Evaluation
import Scriptlet.Proofs.Store.Toolkit
import Scriptlet.Proofs.Store.History
import Scriptlet.Proofs.Printing.Number
import Scriptlet.Proofs.Printing.Nodes
import Scriptlet.Proofs.Tree.Places
import Scriptlet.Proofs.Parser.Seam
import Scriptlet.Proofs.Parser.Carried
import Scriptlet.Proofs.Parser.Blame
import Scriptlet.Proofs.Parser.Telling
import Scriptlet.Proofs.Parser.Prefix
import Scriptlet.Proofs.Printing.Tokens
import Scriptlet.Proofs.Printing.Brackets
import Scriptlet.Proofs.Printing.Forms
import Scriptlet.Proofs.Printing.Printable
import Scriptlet.Proofs.Printing.RoundTrip
import Scriptlet.Proofs.Lexer.Layout
import Scriptlet.Proofs.Lexer.Lossless
import Scriptlet.Proofs.Lexer.Joined
import Scriptlet.Proofs.Lexer.Written
import Scriptlet.Proofs.Parser.Joined
import Scriptlet.Proofs.Eval.Steps
import Scriptlet.Proofs.Eval.Accord
import Scriptlet.Proofs.Eval.Unlogged
import Scriptlet.Proofs.Session.Files
import Scriptlet.Proofs.Store.Declared
import Scriptlet.Proofs.Store.Rendering
import Scriptlet.Proofs.Store.Isolation
import Scriptlet.Proofs.Store.Scoping
import Scriptlet.Proofs.Eval.Calls
import Scriptlet.Proofs.Eval.Storing
import Scriptlet.Proofs.Eval.Nesting
import Scriptlet.Proofs.Eval.Purity
import Scriptlet.Proofs.Session.FirstOrder
import Scriptlet.Proofs.Parser.Places
import Scriptlet.Proofs.Parser.Nested
import Scriptlet.Proofs.Parser.Awaited
import Scriptlet.Proofs.Parser.Incomplete
import Scriptlet.Proofs.Parser.Termination
import Scriptlet.Proofs.Session.Reports
import Scriptlet.Proofs.Session.Joined
import Scriptlet.Proofs.Lexer.Scanner
import Scriptlet.Proofs.Parser.Window
import Scriptlet.Proofs.Parser.Requests
import Scriptlet.Proofs.Parser.Sources
