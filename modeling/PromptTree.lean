import PromptTree.Command.Arguments
import PromptTree.Command.Basic
import PromptTree.Command.Run
import PromptTree.Command.Usage
import PromptTree.Condition.Basic
import PromptTree.Condition.Evaluate
import PromptTree.Condition.Operator
import PromptTree.Content.Basic
import PromptTree.Content.Check
import PromptTree.Content.Dump
import PromptTree.Content.Problem
import PromptTree.Content.Reader
import PromptTree.Engine.Batch
import PromptTree.Engine.Instant
import PromptTree.Engine.Preview
import PromptTree.Engine.Request
import PromptTree.Engine.Result
import PromptTree.Error
import PromptTree.Failure
import PromptTree.Files.Directory
import PromptTree.Files.Path
import PromptTree.Files.Reader
import PromptTree.Format.Apply
import PromptTree.Format.Basic
import PromptTree.Grammar.Article
import PromptTree.Grammar.Plural
import PromptTree.Json.Fault
import PromptTree.Json.Printer
import PromptTree.Json.Reader
import PromptTree.Log.Fill
import PromptTree.Log.Level
import PromptTree.Log.Record
import PromptTree.Main
import PromptTree.Nesting
import PromptTree.Numeral.Decimal
import PromptTree.Numeral.Dyadic
import PromptTree.Numeral.Fixed
import PromptTree.Numeral.Literal
import PromptTree.Numeral.Shortest
import PromptTree.Pattern.Basic
import PromptTree.Pattern.Escape
import PromptTree.Pattern.Fault
import PromptTree.Pattern.Matcher
import PromptTree.Pattern.Reader
import PromptTree.Pattern.Token
import PromptTree.Proofs.Answers
import PromptTree.Proofs.Command.Actions
import PromptTree.Proofs.Command.Alternatives
import PromptTree.Proofs.Command.Outcomes
import PromptTree.Proofs.Command.Strains
import PromptTree.Proofs.Condition.Duality
import PromptTree.Proofs.Condition.Paths
import PromptTree.Proofs.Condition.Totality
import PromptTree.Proofs.Content.Blocks
import PromptTree.Proofs.Content.CheckedSlots
import PromptTree.Proofs.Content.Children
import PromptTree.Proofs.Content.ConditionFlaws
import PromptTree.Proofs.Content.Everywhere
import PromptTree.Proofs.Content.Failing
import PromptTree.Proofs.Content.FieldTypes
import PromptTree.Proofs.Content.Flawless
import PromptTree.Proofs.Content.Legible
import PromptTree.Proofs.Content.LongCounts
import PromptTree.Proofs.Content.Messages
import PromptTree.Proofs.Content.NodeFlaws
import PromptTree.Proofs.Content.OnePart
import PromptTree.Proofs.Content.Parts
import PromptTree.Proofs.Content.Pieces
import PromptTree.Proofs.Content.Quiet
import PromptTree.Proofs.Content.Replacing
import PromptTree.Proofs.Content.Returning
import PromptTree.Proofs.Content.Rewriting
import PromptTree.Proofs.Content.RoundTrip
import PromptTree.Proofs.Content.Shown
import PromptTree.Proofs.Content.Slots
import PromptTree.Proofs.Content.Typed
import PromptTree.Proofs.Content.TypedConditions
import PromptTree.Proofs.Content.UnknownKinds
import PromptTree.Proofs.Content.WrittenNodes
import PromptTree.Proofs.Engine.Accounting
import PromptTree.Proofs.Engine.Cycles
import PromptTree.Proofs.Engine.DepthLimit
import PromptTree.Proofs.Engine.Determinism
import PromptTree.Proofs.Engine.Previews
import PromptTree.Proofs.Engine.Seeds
import PromptTree.Proofs.Engine.Tiers
import PromptTree.Proofs.Files.Documents
import PromptTree.Proofs.Json.Limits
import PromptTree.Proofs.Json.Numbers
import PromptTree.Proofs.Json.Readers
import PromptTree.Proofs.Json.Writable
import PromptTree.Proofs.Numeral.Exponents
import PromptTree.Proofs.Numeral.Packing
import PromptTree.Proofs.Numeral.Sides
import PromptTree.Proofs.Random.Choice
import PromptTree.Proofs.Random.Period
import PromptTree.Proofs.Random.Positions
import PromptTree.Proofs.Random.Returns
import PromptTree.Proofs.Random.Samples
import PromptTree.Proofs.Random.Shares
import PromptTree.Proofs.Random.Shuffles
import PromptTree.Proofs.Random.Weights
import PromptTree.Proofs.Render.BuiltinSets
import PromptTree.Proofs.Render.Cycles
import PromptTree.Proofs.Render.Depth
import PromptTree.Proofs.Render.Drawless
import PromptTree.Proofs.Render.Gaps
import PromptTree.Proofs.Render.Induction
import PromptTree.Proofs.Render.Inlining
import PromptTree.Proofs.Render.Issues
import PromptTree.Proofs.Render.Meaning
import PromptTree.Proofs.Render.NameSet
import PromptTree.Proofs.Render.Nesting
import PromptTree.Proofs.Render.Nodes
import PromptTree.Proofs.Render.Record
import PromptTree.Proofs.Render.Refinement
import PromptTree.Proofs.Render.Relation
import PromptTree.Proofs.Render.Reseeding
import PromptTree.Proofs.Render.Texts
import PromptTree.Proofs.Render.UnknownNodes
import PromptTree.Proofs.Render.Usage
import PromptTree.Proofs.Render.WeightedPicks
import PromptTree.Proofs.Schema.Acceptance
import PromptTree.Proofs.Schema.Fields
import PromptTree.Proofs.Schema.Reading
import PromptTree.Proofs.Schema.Writing
import PromptTree.Proofs.Separator.Pieces
import PromptTree.Proofs.Separator.PlainLists
import PromptTree.Proofs.Store.Additions
import PromptTree.Proofs.Store.Isolation
import PromptTree.Proofs.Store.Keys
import PromptTree.Proofs.Store.Loading
import PromptTree.Proofs.Store.Lookup
import PromptTree.Proofs.Store.OrderedMap
import PromptTree.Proofs.Text.Decoding
import PromptTree.Proofs.Text.Marks
import PromptTree.Proofs.Value.Agreement
import PromptTree.Proofs.Value.Places
import PromptTree.Proofs.Value.Written
import PromptTree.Random.Choice
import PromptTree.Random.Generator
import PromptTree.Random.Source
import PromptTree.Render.Issue
import PromptTree.Render.Joining
import PromptTree.Render.Run
import PromptTree.Render.Walk
import PromptTree.Schema.Dump
import PromptTree.Schema.Fault
import PromptTree.Schema.Record
import PromptTree.Schema.Scalar
import PromptTree.Separator.Builtin
import PromptTree.Separator.Rules
import PromptTree.Separator.Template
import PromptTree.Settings.Basic
import PromptTree.Settings.Bindings
import PromptTree.Settings.Environment
import PromptTree.Store.Basic
import PromptTree.Store.Dump
import PromptTree.Store.Entity
import PromptTree.Store.Load
import PromptTree.Store.Reader
import PromptTree.Store.Submit
import PromptTree.Text.Case
import PromptTree.Text.CaseTable
import PromptTree.Text.CharacterName
import PromptTree.Text.CharacterNames.Further
import PromptTree.Text.CharacterNames.Letters
import PromptTree.Text.CharacterNames.Pictures
import PromptTree.Text.CharacterNames.Scripts
import PromptTree.Text.CharacterNames.Signs
import PromptTree.Text.CharacterNames.Syllables
import PromptTree.Text.Class
import PromptTree.Text.Cut
import PromptTree.Text.LetterTable
import PromptTree.Text.NameTable
import PromptTree.Text.NumeralTable
import PromptTree.Text.PrintTable
import PromptTree.Text.Quoted
import PromptTree.Text.Utf8
import PromptTree.Value.Basic
import PromptTree.Value.Display
import PromptTree.Value.Equality
import PromptTree.Value.Path
import PromptTree.Value.Text
import PromptTree.Value.Writing
import PromptTree.Web.Service
import PromptTree.Web.Target
