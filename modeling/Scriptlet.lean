import Scriptlet.CommandLine
import Scriptlet.Container
import Scriptlet.Double.Arithmetic
import Scriptlet.Double.Basic
import Scriptlet.Double.Bits
import Scriptlet.Double.Decimal
import Scriptlet.Double.Root
import Scriptlet.Engine
import Scriptlet.EngineRegistry
import Scriptlet.Evaluation
import Scriptlet.Event
import Scriptlet.Expr
import Scriptlet.Fault
import Scriptlet.Host
import Scriptlet.Json.Basic
import Scriptlet.Json.Reader
import Scriptlet.Json.Writer
import Scriptlet.Language
import Scriptlet.Main
import Scriptlet.Method
import Scriptlet.Number
import Scriptlet.Numeral
import Scriptlet.Numeral.Scaled
import Scriptlet.Run
import Scriptlet.Statics
import Scriptlet.Statics.Math
import Scriptlet.Table
import Scriptlet.Template
import Scriptlet.Template.Grammar
import Scriptlet.Template.Lexeme
import Scriptlet.Text.Blank
import Scriptlet.Text.CaseTables
import Scriptlet.Text.CharSet
import Scriptlet.Text.Digits
import Scriptlet.Text.LetterCase
import Scriptlet.Text.Letters
import Scriptlet.Text.Literal
import Scriptlet.Text.Names
import Scriptlet.Text.Reading
import Scriptlet.Text.Search
import Scriptlet.Text.Unprintable
import Scriptlet.Value
import Scriptlet.Value.Access
import Scriptlet.Value.Arithmetic
import Scriptlet.Value.Methods
import Scriptlet.Value.Order
import Scriptlet.Proofs.CommandLine.Exits
import Scriptlet.Proofs.CommandLine.HandThrough
import Scriptlet.Proofs.Container.History
import Scriptlet.Proofs.Double.Decimals
import Scriptlet.Proofs.Double.Encoding
import Scriptlet.Proofs.Double.HalfUp
import Scriptlet.Proofs.Double.Nearest
import Scriptlet.Proofs.Double.Overflow
import Scriptlet.Proofs.Double.Rescaled
import Scriptlet.Proofs.Double.Rounding
import Scriptlet.Proofs.Double.Scaling
import Scriptlet.Proofs.Double.Shortest
import Scriptlet.Proofs.Double.Signed
import Scriptlet.Proofs.Double.Written
import Scriptlet.Proofs.Engine.Inlining
import Scriptlet.Proofs.Engine.Policy
import Scriptlet.Proofs.Engine.Registries
import Scriptlet.Proofs.Engine.Registry
import Scriptlet.Proofs.Evaluation.Bindings
import Scriptlet.Proofs.Evaluation.Conditions
import Scriptlet.Proofs.Evaluation.Confined
import Scriptlet.Proofs.Evaluation.Depth
import Scriptlet.Proofs.Evaluation.Finite
import Scriptlet.Proofs.Evaluation.Integers
import Scriptlet.Proofs.Evaluation.Orderly
import Scriptlet.Proofs.Evaluation.Outcomes
import Scriptlet.Proofs.Evaluation.Overflow
import Scriptlet.Proofs.Evaluation.Plans
import Scriptlet.Proofs.Evaluation.Positional
import Scriptlet.Proofs.Evaluation.Reached
import Scriptlet.Proofs.Evaluation.Substitution
import Scriptlet.Proofs.Evaluation.Tour
import Scriptlet.Proofs.Expr.Equality
import Scriptlet.Proofs.Expr.Induction
import Scriptlet.Proofs.Expr.Nodes
import Scriptlet.Proofs.Expr.Positions
import Scriptlet.Proofs.Expr.Substitution
import Scriptlet.Proofs.Fault.JobFailure
import Scriptlet.Proofs.Json.Data
import Scriptlet.Proofs.Json.Reading
import Scriptlet.Proofs.Json.RoundTrip
import Scriptlet.Proofs.Json.Strings
import Scriptlet.Proofs.Number.Extremes
import Scriptlet.Proofs.Number.Order
import Scriptlet.Proofs.Number.Range
import Scriptlet.Proofs.Number.Spelled
import Scriptlet.Proofs.Number.Text
import Scriptlet.Proofs.Numeral.Compared
import Scriptlet.Proofs.Numeral.Denoted
import Scriptlet.Proofs.Numeral.Grammar
import Scriptlet.Proofs.Numeral.Spelling
import Scriptlet.Proofs.Registry.Session
import Scriptlet.Proofs.Registry.Storage
import Scriptlet.Proofs.Run.Attempt
import Scriptlet.Proofs.Run.Orderly
import Scriptlet.Proofs.Statics.Extremes
import Scriptlet.Proofs.Statics.Lookup
import Scriptlet.Proofs.Statics.Math
import Scriptlet.Proofs.Statics.Registries
import Scriptlet.Proofs.Statics.Round
import Scriptlet.Proofs.Table.Order
import Scriptlet.Proofs.Template.Composition
import Scriptlet.Proofs.Template.Cursor
import Scriptlet.Proofs.Template.Depth
import Scriptlet.Proofs.Template.Derivation
import Scriptlet.Proofs.Template.Doubles
import Scriptlet.Proofs.Template.GrammarWalkers
import Scriptlet.Proofs.Template.LexemeWalkers
import Scriptlet.Proofs.Template.Lexemes
import Scriptlet.Proofs.Template.Limits
import Scriptlet.Proofs.Template.Listing
import Scriptlet.Proofs.Template.Locality
import Scriptlet.Proofs.Template.LongestNumerals
import Scriptlet.Proofs.Template.Minus
import Scriptlet.Proofs.Template.Numerals
import Scriptlet.Proofs.Template.Places
import Scriptlet.Proofs.Template.QuotedTexts
import Scriptlet.Proofs.Template.Readers
import Scriptlet.Proofs.Template.Recognition
import Scriptlet.Proofs.Template.References
import Scriptlet.Proofs.Template.Respaced
import Scriptlet.Proofs.Template.RoundTrip
import Scriptlet.Proofs.Template.Spacing
import Scriptlet.Proofs.Template.Spelling
import Scriptlet.Proofs.Template.Tokens
import Scriptlet.Proofs.Template.ValidCursor
import Scriptlet.Proofs.Template.Walk
import Scriptlet.Proofs.Text.ByteOrder
import Scriptlet.Proofs.Text.Characters
import Scriptlet.Proofs.Text.Digits
import Scriptlet.Proofs.Text.Offsets
import Scriptlet.Proofs.Text.Search
import Scriptlet.Proofs.Value.CodePoints
import Scriptlet.Proofs.Value.Collections
import Scriptlet.Proofs.Value.Comparison
import Scriptlet.Proofs.Value.Inert
import Scriptlet.Proofs.Value.Numbers
import Scriptlet.Proofs.Value.Positional
import Scriptlet.Proofs.Value.Texts
