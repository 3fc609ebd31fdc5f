import Frontend.Chain
import Frontend.CommandLine
import Frontend.Cursor
import Frontend.DataType
import Frontend.Diagnostic
import Frontend.Diagnostic.Report
import Frontend.Expression
import Frontend.Json
import Frontend.Main
import Frontend.Node
import Frontend.Node.Dump
import Frontend.Notice
import Frontend.Operator
import Frontend.Program
import Frontend.Proofs.Climbing
import Frontend.Proofs.Conservation
import Frontend.Proofs.Grammar
import Frontend.Proofs.Grammar.Acceptance
import Frontend.Proofs.Grammar.Completeness
import Frontend.Proofs.Grammar.Language
import Frontend.Proofs.Grammar.Soundness
import Frontend.Proofs.Grouping
import Frontend.Proofs.Printing.Phrase
import Frontend.Proofs.Printing.ReadBack
import Frontend.Proofs.Printing.RoundTrip
import Frontend.Proofs.Reading.Expression
import Frontend.Proofs.Reading.Passage
import Frontend.Proofs.Reading.Run
import Frontend.Proofs.Reading.Statement
import Frontend.Proofs.Replay
import Frontend.Proofs.Scanning
import Frontend.Proofs.Scanning.Cut
import Frontend.Proofs.Typing
import Frontend.Record
import Frontend.Reply
import Frontend.Session
import Frontend.Session.Workbench
import Frontend.Span
import Frontend.Statement
import Frontend.SymbolTable
import Frontend.Text.Blank
import Frontend.Text.Bytes
import Frontend.Text.Combining
import Frontend.Text.Line
import Frontend.Text.Printable
import Frontend.Text.Quoted
import Frontend.Text.Ranges
import Frontend.Token
import Frontend.Token.Scan
import Frontend.Proofs.Scanning.Layout
import Frontend.Proofs.Scanning.Tiling
import Frontend.Proofs.Reading.Movement
import Frontend.Proofs.Redeclaration
import Frontend.Proofs.Likeness
import Frontend.Proofs.Likeness.Expression
import Frontend.Proofs.Likeness.Statement
import Frontend.Proofs.Locality
import Frontend.Proofs.Blame.Expression
import Frontend.Proofs.Blame
import Frontend.Proofs.Symbols
import Frontend.Proofs.Grammar.Reserved
import Frontend.Proofs.Placement
import Frontend.Proofs.Lines
import Frontend.Proofs.Pointing
import Frontend.Proofs.Undeclared
import Frontend.Proofs.Report
import Frontend.Proofs.Descent
import Frontend.Proofs.Reading.Growth
import Frontend.Proofs.Descent.Statement
import Frontend.Proofs.Operations
import Frontend.Proofs.Rounds
import Frontend.Proofs.Turns
import Frontend.Proofs.SelfAssignment
import Frontend.Proofs.Room
import Frontend.Proofs.Trial
import Frontend.Proofs.Renaming
import Frontend.Proofs.Json.Grammar
import Frontend.Proofs.Json.Decoder
import Frontend.Proofs.Json.Decoding
import Frontend.Proofs.Json.Dump
import Frontend.Proofs.Scanning.Concatenation
import Frontend.Proofs.Scanning.Digits
import Frontend.Proofs.Lines.Lookup
import Frontend.Proofs.Outline.Decoder
import Frontend.Proofs.Outline
import Frontend.Proofs.Outline.Lines
import Frontend.Proofs.Symbols.Insertion
