import LexisFront.CommandLine
import LexisFront.Diagnostic.Code
import LexisFront.Diagnostic.Event
import LexisFront.Diagnostic.Journal
import LexisFront.Fragment.Analyzer
import LexisFront.Fragment.Contribution
import LexisFront.Fragment.Error
import LexisFront.Fragment.Lexer
import LexisFront.Fragment.Tally
import LexisFront.Fragment.Verdict
import LexisFront.Json.Basic
import LexisFront.Json.Writer
import LexisFront.Limits
import LexisFront.Main
import LexisFront.Pipeline
import LexisFront.Program.Basic
import LexisFront.Program.Codec
import LexisFront.Program.Dump
import LexisFront.Program.Error
import LexisFront.Program.Parser
import LexisFront.Proofs.Diagnostic.Retention
import LexisFront.Proofs.Lexing.Census
import LexisFront.Proofs.Lexing.Counters
import LexisFront.Proofs.Lexing.Fragment
import LexisFront.Proofs.Lexing.Judgement
import LexisFront.Proofs.Lexing.Places
import LexisFront.Proofs.Lexing.Reference
import LexisFront.Proofs.Lexing.Run
import LexisFront.Proofs.Lexing.Truncation
import LexisFront.Proofs.Lexing.Warnings
import LexisFront.Proofs.Lexing.Words
import LexisFront.Proofs.Parsing.Acceptance
import LexisFront.Proofs.Parsing.Grammar
import LexisFront.Proofs.Parsing.Refusal
import LexisFront.Proofs.Parsing.Viable
import LexisFront.Proofs.Pipeline.ErrorPlace
import LexisFront.Proofs.Pipeline.Files
import LexisFront.Proofs.Pipeline.Stages
import LexisFront.Proofs.Pipeline.Totality
import LexisFront.Proofs.Pipeline.Trace
import LexisFront.Proofs.Program.Conservation
import LexisFront.Proofs.Program.Produced
import LexisFront.Proofs.Program.RoundTrip
import LexisFront.Proofs.Program.WellFormed
import LexisFront.Proofs.Source.Advance
import LexisFront.Proofs.Source.Faults
import LexisFront.Proofs.Source.Lines
import LexisFront.Proofs.Source.Marks
import LexisFront.Settings
import LexisFront.Source.Excerpt
import LexisFront.Source.File
import LexisFront.Source.FileTree
import LexisFront.Source.Position
import LexisFront.Source.Span
import LexisFront.Text.Blank
import LexisFront.Text.CodeRange
import LexisFront.Text.Hidden
import LexisFront.Text.LetterCase
import LexisFront.Text.Lowercase
import LexisFront.Text.Piece
import LexisFront.Text.Quoted
import LexisFront.Text.Size
import LexisFront.Token.Basic
import LexisFront.Token.Census
import LexisFront.Token.Cursor
import LexisFront.Token.Kind
import LexisFront.Token.Sequence
import LexisFront.Proofs.Source.LineIndex
import LexisFront.Proofs.Lexing.Correspondence
import LexisFront.Proofs.Lexing.LineEnds
import LexisFront.Proofs.Lexing.Concatenation
import LexisFront.Proofs.Lexing.Strictness
import LexisFront.Proofs.Lexing.FinerCut
import LexisFront.Proofs.Parsing.Unlimited
import LexisFront.Proofs.Lexing.KindCounts
import LexisFront.Proofs.Lexing.Reuse
import LexisFront.Proofs.Lexing.Tallying
import LexisFront.Proofs.Lexing.TallyReport
import LexisFront.Proofs.Lexing.Gaps
import LexisFront.Proofs.Lexing.Respacing
import LexisFront.Proofs.Source.LinePartition
import LexisFront.Proofs.Parsing.Walk
import LexisFront.Proofs.Parsing.Progress
import LexisFront.Proofs.Program.ChainParts
import LexisFront.Proofs.Program.Layout
import LexisFront.Proofs.Program.Legibility
import LexisFront.Proofs.Program.Denotation
import LexisFront.Proofs.Source.Overflow
import LexisFront.Proofs.CommandLine.Arguments
import LexisFront.Proofs.Text.ByteOrder
import LexisFront.Proofs.Diagnostic.ContextOrder
import LexisFront.Proofs.Lexing.BlankSource
