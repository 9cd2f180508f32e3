import CommentSwitch.Text.Lines
import CommentSwitch.Conversion.Convert
import CommentSwitch.Pattern.Search
import CommentSwitch.Pattern.Escape
import CommentSwitch.Pattern.Bracket
import CommentSwitch.Pattern.Matcher
import CommentSwitch.Remap.Remapper
import CommentSwitch.Converter
import CommentSwitch.Decimal.Binary64
import CommentSwitch.Yaml.Character
import CommentSwitch.Yaml.Cursor
import CommentSwitch.Yaml.Gap
import CommentSwitch.Yaml.Scalar
import CommentSwitch.Yaml.Token
import CommentSwitch.Yaml.Tag
import CommentSwitch.Yaml.TokenStream
import CommentSwitch.Yaml.Document
import CommentSwitch.Yaml.Value
import CommentSwitch.Yaml.Load
import CommentSwitch.Yaml.Layout
import CommentSwitch.Yaml.Printer
import CommentSwitch.Settings.Loading
import CommentSwitch.Settings.Printing
import CommentSwitch.Files.FileSystem
import CommentSwitch.Json.Printer
import CommentSwitch.Json.Reader
import CommentSwitch.Report.Outcome
import CommentSwitch.Report.Summary
import CommentSwitch.Converter.Batch
import CommentSwitch.Settings.Chain
import CommentSwitch.CommandLine.Arguments
import CommentSwitch.CommandLine.Invocation
import CommentSwitch.CommandLine.Run
import CommentSwitch.Main
import CommentSwitch.Proofs.Text.Trimming
import CommentSwitch.Proofs.Keywords.Validation
import CommentSwitch.Proofs.Conversion.Run
import CommentSwitch.Proofs.Conversion.TaggedLine
import CommentSwitch.Proofs.Conversion.Passes
import CommentSwitch.Proofs.Conversion.LineCore
import CommentSwitch.Proofs.Conversion.Idempotence
import CommentSwitch.Proofs.Conversion.Reconversion
import CommentSwitch.Proofs.Condition.Place
import CommentSwitch.Proofs.Conversion.Outline
import CommentSwitch.Proofs.Conversion.Nesting
import CommentSwitch.Proofs.Conversion.OpenBlocks
import CommentSwitch.Proofs.Conversion.Acceptance
import CommentSwitch.Proofs.Conversion.Stripping
import CommentSwitch.Proofs.Conversion.Selection
import CommentSwitch.Proofs.Text.Cutting
import CommentSwitch.Proofs.Condition.Operators
import CommentSwitch.Proofs.Condition.Formula
import CommentSwitch.Proofs.Conversion.Restoring
import CommentSwitch.Proofs.Files.Following
import CommentSwitch.Proofs.Files.Parent
import CommentSwitch.Proofs.Files.Operations
import CommentSwitch.Proofs.Converter.Runs
import CommentSwitch.Proofs.Converter.AllOrNothing
import CommentSwitch.Proofs.Files.PlainPaths
import CommentSwitch.Proofs.Converter.Jobs
import CommentSwitch.Proofs.Converter.Sources
import CommentSwitch.Proofs.Converter.Batches
import CommentSwitch.Proofs.Converter.Mirror
import CommentSwitch.Proofs.Conversion.Readability
import CommentSwitch.Proofs.Settings.Tables
import CommentSwitch.Proofs.Settings.Chains
import CommentSwitch.Proofs.Files.Paving
import CommentSwitch.Proofs.Converter.Verdicts
import CommentSwitch.Proofs.Converter.Schedules
import CommentSwitch.Proofs.Text.LowerForms
import CommentSwitch.Proofs.Keywords.Extensions
import CommentSwitch.Proofs.Yaml.Survival
import CommentSwitch.Proofs.Settings.Registration
import CommentSwitch.Proofs.Settings.Printed
import CommentSwitch.Proofs.Condition.Readings
import CommentSwitch.Proofs.Keywords.Lookup
import CommentSwitch.Proofs.Keywords.Recognition
import CommentSwitch.Proofs.Settings.Layers
import CommentSwitch.Proofs.Conversion.Concatenation
import CommentSwitch.Proofs.Conversion.StrippedOutput
import CommentSwitch.Proofs.Conversion.UnnamedVariables
import CommentSwitch.Proofs.Remap.Histories
import CommentSwitch.Proofs.Converter.Refusals
import CommentSwitch.Proofs.Conversion.LeftOut
import CommentSwitch.Proofs.Converter.Counts
import CommentSwitch.Proofs.Files.Contents
import CommentSwitch.Proofs.Converter.Stability
import CommentSwitch.Proofs.Files.Leads
import CommentSwitch.Proofs.Converter.InTurn
import CommentSwitch.Proofs.CommandLine.Routes
import CommentSwitch.Proofs.Condition.Depth
import CommentSwitch.Proofs.Conversion.Columns
import CommentSwitch.Proofs.Text.Offsets
import CommentSwitch.Proofs.Conversion.InBytes
