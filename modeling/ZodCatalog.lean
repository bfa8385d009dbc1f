import ZodCatalog.Catalog.Assembly
import ZodCatalog.Catalog.Classification
import ZodCatalog.Catalog.Column
import ZodCatalog.Catalog.Document
import ZodCatalog.Catalog.Filter
import ZodCatalog.Catalog.Relation
import ZodCatalog.Catalog.Row
import ZodCatalog.Catalog.Schema
import ZodCatalog.Catalog.Shape
import ZodCatalog.Check.Clause
import ZodCatalog.Check.Literal
import ZodCatalog.Check.Nesting
import ZodCatalog.CommandLine.Command
import ZodCatalog.CommandLine.Error
import ZodCatalog.CommandLine.Flag
import ZodCatalog.CommandLine.Help
import ZodCatalog.CommandLine.Log
import ZodCatalog.CommandLine.Overrides
import ZodCatalog.CommandLine.Run
import ZodCatalog.Config.Basic
import ZodCatalog.Config.Document
import ZodCatalog.Config.File
import ZodCatalog.Config.Shape
import ZodCatalog.Connection.Address
import ZodCatalog.Connection.Config
import ZodCatalog.Connection.Options
import ZodCatalog.Connection.Redaction
import ZodCatalog.Connection.Url
import ZodCatalog.Document.Json
import ZodCatalog.Document.JsonReader
import ZodCatalog.Document.Shape
import ZodCatalog.Document.Value
import ZodCatalog.Edit.Document
import ZodCatalog.Edit.Rule
import ZodCatalog.Entries
import ZodCatalog.Error
import ZodCatalog.Files.Atomic
import ZodCatalog.Files.Path
import ZodCatalog.Files.System
import ZodCatalog.Generator.Directory
import ZodCatalog.Generator.Document
import ZodCatalog.Generator.Hooks
import ZodCatalog.Generator.Run
import ZodCatalog.Generator.Source
import ZodCatalog.Generator.Writer
import ZodCatalog.Main
import ZodCatalog.Module.Document
import ZodCatalog.Module.Model
import ZodCatalog.Module.Text
import ZodCatalog.Naming.Casing
import ZodCatalog.Naming.Document
import ZodCatalog.Naming.Family
import ZodCatalog.Naming.Inflection
import ZodCatalog.Pattern.Age
import ZodCatalog.Pattern.Automaton
import ZodCatalog.Pattern.Basic
import ZodCatalog.Pattern.Break
import ZodCatalog.Pattern.Category
import ZodCatalog.Pattern.CharSet
import ZodCatalog.Pattern.Fault
import ZodCatalog.Pattern.Folding
import ZodCatalog.Pattern.Matching
import ZodCatalog.Pattern.Named
import ZodCatalog.Pattern.Plan
import ZodCatalog.Pattern.Property
import ZodCatalog.Pattern.PropertySpans
import ZodCatalog.Pattern.Reader
import ZodCatalog.Pattern.Runs
import ZodCatalog.Pattern.Script
import ZodCatalog.Pattern.ScriptUse
import ZodCatalog.Proofs.Alphabets
import ZodCatalog.Proofs.Alternations
import ZodCatalog.Proofs.ArrayHeads
import ZodCatalog.Proofs.ArrayValues
import ZodCatalog.Proofs.BoundReferences
import ZodCatalog.Proofs.CallChains
import ZodCatalog.Proofs.ClauseForms
import ZodCatalog.Proofs.ClauseReaders
import ZodCatalog.Proofs.ColumnEdits
import ZodCatalog.Proofs.ConfigReadings
import ZodCatalog.Proofs.ConnectionTargets
import ZodCatalog.Proofs.ConstantValues
import ZodCatalog.Proofs.CountedParentheses
import ZodCatalog.Proofs.DeclaredNames
import ZodCatalog.Proofs.DescriptorReadings
import ZodCatalog.Proofs.DialectAgreement
import ZodCatalog.Proofs.DirectoryWrites
import ZodCatalog.Proofs.DryRuns
import ZodCatalog.Proofs.EncodedKeys
import ZodCatalog.Proofs.EqualityChains
import ZodCatalog.Proofs.EqualityReadings
import ZodCatalog.Proofs.Evaluations
import ZodCatalog.Proofs.ExportedNames
import ZodCatalog.Proofs.ExpressionReadings
import ZodCatalog.Proofs.Failures
import ZodCatalog.Proofs.FileNames
import ZodCatalog.Proofs.FileReadings
import ZodCatalog.Proofs.FileTrees
import ZodCatalog.Proofs.HookCalls
import ZodCatalog.Proofs.IdentifierForms
import ZodCatalog.Proofs.JsonLayouts
import ZodCatalog.Proofs.JsonTexts
import ZodCatalog.Proofs.KeptModules
import ZodCatalog.Proofs.LeadingNames
import ZodCatalog.Proofs.LeftSides
import ZodCatalog.Proofs.LegalIdentifiers
import ZodCatalog.Proofs.LimitedColumns
import ZodCatalog.Proofs.LiteralLists
import ZodCatalog.Proofs.MaskedSecrets
import ZodCatalog.Proofs.ModuleComments
import ZodCatalog.Proofs.ModuleLiterals
import ZodCatalog.Proofs.ModulePaths
import ZodCatalog.Proofs.ModuleStatements
import ZodCatalog.Proofs.NullValues
import ZodCatalog.Proofs.OmittedValues
import ZodCatalog.Proofs.OuterParentheses
import ZodCatalog.Proofs.ParentPaths
import ZodCatalog.Proofs.PercentSigns
import ZodCatalog.Proofs.PlainModels
import ZodCatalog.Proofs.Preparation
import ZodCatalog.Proofs.ProcessLaws
import ZodCatalog.Proofs.PropertyNames
import ZodCatalog.Proofs.QuotedText
import ZodCatalog.Proofs.RowPartition
import ZodCatalog.Proofs.RowPermutations
import ZodCatalog.Proofs.RunOrder
import ZodCatalog.Proofs.RunReplays
import ZodCatalog.Proofs.SaveSteps
import ZodCatalog.Proofs.SavedFiles
import ZodCatalog.Proofs.SeparatorCuts
import ZodCatalog.Proofs.SharedModules
import ZodCatalog.Proofs.SingularForms
import ZodCatalog.Proofs.TableWrites
import ZodCatalog.Proofs.TypeSpellings
import ZodCatalog.Proofs.ValueRecovery
import ZodCatalog.Proofs.WeakenedLimits
import ZodCatalog.Proofs.WrappedClauses
import ZodCatalog.Sorting
import ZodCatalog.Text.Blank
import ZodCatalog.Text.Category
import ZodCatalog.Text.Letter
import ZodCatalog.Text.LetterCase
import ZodCatalog.Text.Newest
import ZodCatalog.Text.Span
import ZodCatalog.Text.Split
import ZodCatalog.Text.Utf8
import ZodCatalog.Text.Visible
import ZodCatalog.Text.Words
import ZodCatalog.Toml.Number
import ZodCatalog.Toml.Quoted
import ZodCatalog.Toml.Reader
import ZodCatalog.Toml.Table
import ZodCatalog.Toml.Writer
import ZodCatalog.Trace
import ZodCatalog.Zod.Dialect
import ZodCatalog.Zod.Expr
import ZodCatalog.Zod.Render
