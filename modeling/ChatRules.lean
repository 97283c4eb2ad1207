import ChatRules.Block.Basic
import ChatRules.Block.Encoding
import ChatRules.Chain.Gate
import ChatRules.Chain.Matching
import ChatRules.Chain.Run
import ChatRules.CommandLine
import ChatRules.Condition.Basic
import ChatRules.Condition.Encoding
import ChatRules.Condition.Evaluate
import ChatRules.Config.Basic
import ChatRules.Config.Check
import ChatRules.Config.Encoding
import ChatRules.Context
import ChatRules.Context.Encoding
import ChatRules.Decimal.Read
import ChatRules.Decimal.Shortest
import ChatRules.Decimal.Spelling
import ChatRules.Dict
import ChatRules.Digits
import ChatRules.Document.Basic
import ChatRules.Document.Decode
import ChatRules.Document.Fit
import ChatRules.EffectTree
import ChatRules.EffectTree.Node
import ChatRules.Error
import ChatRules.Evaluation.Conflict
import ChatRules.Evaluation.Order
import ChatRules.Evaluation.Outcome
import ChatRules.Evaluation.Report
import ChatRules.Instant
import ChatRules.Json.Numeral
import ChatRules.Json.Print
import ChatRules.Json.Read
import ChatRules.Json.Value
import ChatRules.Loading
import ChatRules.Main
import ChatRules.Matching
import ChatRules.Path
import ChatRules.Progressive.Patch
import ChatRules.Progressive.Run
import ChatRules.Proofs.Block.Leaves
import ChatRules.Proofs.Block.Reload
import ChatRules.Proofs.Chain.Branches
import ChatRules.Proofs.Chain.Cut
import ChatRules.Proofs.Chain.Frame
import ChatRules.Proofs.Chain.Gates
import ChatRules.Proofs.Chain.Lists
import ChatRules.Proofs.Chain.Phrases
import ChatRules.Proofs.Chain.State
import ChatRules.Proofs.Chain.Verbatim
import ChatRules.Proofs.Chain.Window
import ChatRules.Proofs.Condition.Copy
import ChatRules.Proofs.Condition.Judgement
import ChatRules.Proofs.Condition.Loaded
import ChatRules.Proofs.Condition.Missing
import ChatRules.Proofs.Condition.Parts
import ChatRules.Proofs.Condition.Places
import ChatRules.Proofs.Condition.Positive
import ChatRules.Proofs.Condition.Related
import ChatRules.Proofs.Condition.Reload
import ChatRules.Proofs.Condition.Reports
import ChatRules.Proofs.Condition.Shape
import ChatRules.Proofs.Condition.Window
import ChatRules.Proofs.Config.Blocked
import ChatRules.Proofs.Context.AppendNothing
import ChatRules.Proofs.Context.Reload
import ChatRules.Proofs.Context.Storable
import ChatRules.Proofs.Context.Store
import ChatRules.Proofs.Context.Texts
import ChatRules.Proofs.Context.Write
import ChatRules.Proofs.Decimal.Characters
import ChatRules.Proofs.Decimal.Order
import ChatRules.Proofs.Document.Change
import ChatRules.Proofs.Document.Copy
import ChatRules.Proofs.Document.Record
import ChatRules.Proofs.Document.Saved
import ChatRules.Proofs.Document.Values
import ChatRules.Proofs.EffectTree.Encoding
import ChatRules.Proofs.EffectTree.Flatten
import ChatRules.Proofs.EffectTree.Fragments
import ChatRules.Proofs.EffectTree.Leaves
import ChatRules.Proofs.EffectTree.Merge
import ChatRules.Proofs.Evaluation.Allowlist
import ChatRules.Proofs.Evaluation.Append
import ChatRules.Proofs.Evaluation.Effects
import ChatRules.Proofs.Evaluation.Grouping
import ChatRules.Proofs.Evaluation.Isolation
import ChatRules.Proofs.Evaluation.Overlap
import ChatRules.Proofs.Evaluation.Priority
import ChatRules.Proofs.Evaluation.Strictness
import ChatRules.Proofs.Evaluation.Trace
import ChatRules.Proofs.Json.Characters
import ChatRules.Proofs.Json.Finite
import ChatRules.Proofs.Json.FreeForm
import ChatRules.Proofs.Json.Reading
import ChatRules.Proofs.Json.Token
import ChatRules.Proofs.Progressive.Agreement
import ChatRules.Proofs.Progressive.Composition
import ChatRules.Proofs.Progressive.Confinement
import ChatRules.Proofs.Progressive.Effects
import ChatRules.Proofs.Progressive.Growth
import ChatRules.Proofs.Progressive.Malformed
import ChatRules.Proofs.Progressive.Overlap
import ChatRules.Proofs.Progressive.Replay
import ChatRules.Proofs.Progressive.Trace
import ChatRules.Proofs.Progressive.Turns
import ChatRules.Proofs.Reason.Rendering
import ChatRules.Proofs.Rule.Attribution
import ChatRules.Proofs.Rule.Broken
import ChatRules.Proofs.Rule.Clean
import ChatRules.Proofs.Rule.DeadTerms
import ChatRules.Proofs.Rule.Effects
import ChatRules.Proofs.Rule.Findings
import ChatRules.Proofs.Rule.Locality
import ChatRules.Proofs.Rule.Reload
import ChatRules.Proofs.Rule.Warnings
import ChatRules.Proofs.Text.Appending
import ChatRules.Proofs.Text.Blanks
import ChatRules.Proofs.Text.LowerCase
import ChatRules.Proofs.Text.NormalForm
import ChatRules.Proofs.Text.Sigma
import ChatRules.Proofs.Text.Spacing
import ChatRules.Proofs.Text.Terms
import ChatRules.Random
import ChatRules.Reason
import ChatRules.Regex.Basic
import ChatRules.Regex.Bracket
import ChatRules.Regex.CharSet
import ChatRules.Regex.Error
import ChatRules.Regex.Escape
import ChatRules.Regex.Expr
import ChatRules.Regex.Meaning
import ChatRules.Regex.Parse
import ChatRules.Regex.Pattern
import ChatRules.Regex.Program
import ChatRules.Regex.Property
import ChatRules.Regex.Reader
import ChatRules.Regex.Search
import ChatRules.Rule.Basic
import ChatRules.Rule.Encoding
import ChatRules.Rule.Program
import ChatRules.Rule.Validation
import ChatRules.Sha256
import ChatRules.Source.Builtin
import ChatRules.Source.Registry
import ChatRules.Source.Value
import ChatRules.Storage
import ChatRules.Text.Additions
import ChatRules.Text.Case.Table
import ChatRules.Text.Category
import ChatRules.Text.Category.Letters
import ChatRules.Text.Category.Marks
import ChatRules.Text.Category.Others
import ChatRules.Text.Category.Symbols
import ChatRules.Text.CodePoints
import ChatRules.Text.Lower
import ChatRules.Text.Picture
import ChatRules.Text.Property
import ChatRules.Text.Quoted
import ChatRules.Text.Script
import ChatRules.Text.Search
import ChatRules.Text.Words
import ChatRules.Trace
import ChatRules.Traced
import ChatRules.Word
import ChatRules.Yaml.Cursor
import ChatRules.Yaml.Print
import ChatRules.Yaml.Read
import ChatRules.Yaml.Scalar
import ChatRules.Yaml.Scan
import ChatRules.Yaml.Text
import ChatRules.Yaml.Token
