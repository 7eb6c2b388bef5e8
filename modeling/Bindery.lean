import Bindery.Book
import Bindery.Calendar
import Bindery.CommandLine
import Bindery.CommandLine.Flag
import Bindery.CommandLine.Reading
import Bindery.CommandLine.Request
import Bindery.Compiler
import Bindery.Decimal.Double
import Bindery.Decimal.Read
import Bindery.Decimal.Shortest
import Bindery.Document
import Bindery.Document.Writer
import Bindery.Draft
import Bindery.Entity
import Bindery.Example
import Bindery.Fault
import Bindery.FileTree
import Bindery.FrontMatter
import Bindery.Glob
import Bindery.Json.Reader
import Bindery.Json.Writer
import Bindery.Kind
import Bindery.Log
import Bindery.Main
import Bindery.Node
import Bindery.Node.Load
import Bindery.Node.Record
import Bindery.Node.TypeText
import Bindery.Pages
import Bindery.Path
import Bindery.Proofs.Assembly
import Bindery.Proofs.BrokenPages
import Bindery.Proofs.BrokenSettings
import Bindery.Proofs.BuildReports
import Bindery.Proofs.CamelWords
import Bindery.Proofs.Compilation
import Bindery.Proofs.Confinement
import Bindery.Proofs.CrossLinks
import Bindery.Proofs.Defects
import Bindery.Proofs.Definitions
import Bindery.Proofs.Drafting
import Bindery.Proofs.ExampleListing
import Bindery.Proofs.FailedBuilds
import Bindery.Proofs.Floats
import Bindery.Proofs.Footers
import Bindery.Proofs.Freezing
import Bindery.Proofs.FrontMatterBlocks
import Bindery.Proofs.Grouping
import Bindery.Proofs.Hashes
import Bindery.Proofs.LastRegistrations
import Bindery.Proofs.LateDocuments
import Bindery.Proofs.LexicalFaults
import Bindery.Proofs.LineBreaks
import Bindery.Proofs.Linking
import Bindery.Proofs.Listings
import Bindery.Proofs.LoadedMappings
import Bindery.Proofs.Marks
import Bindery.Proofs.MixedMembers
import Bindery.Proofs.Openings
import Bindery.Proofs.PackagedPages
import Bindery.Proofs.PlainLines
import Bindery.Proofs.PlainMappings
import Bindery.Proofs.PlainScalars
import Bindery.Proofs.Rebuilding
import Bindery.Proofs.RecordGrammar
import Bindery.Proofs.Refusals
import Bindery.Proofs.Registration
import Bindery.Proofs.RelativeTargets
import Bindery.Proofs.Reordering
import Bindery.Proofs.Rewriting
import Bindery.Proofs.Scanning
import Bindery.Proofs.Searching
import Bindery.Proofs.SettingKeys
import Bindery.Proofs.Settling
import Bindery.Proofs.SignatureLines
import Bindery.Proofs.SoundTrees
import Bindery.Proofs.Spelling
import Bindery.Proofs.Stopping
import Bindery.Proofs.TableOfContents
import Bindery.Proofs.TableRows
import Bindery.Proofs.Tables
import Bindery.Proofs.TextPatterns
import Bindery.Proofs.TokenPositions
import Bindery.Proofs.Tracking
import Bindery.Proofs.TypeLiterals
import Bindery.Proofs.TypeReferences
import Bindery.Proofs.TypeTexts
import Bindery.Proofs.TypeTokens
import Bindery.Proofs.WholeNumbers
import Bindery.Proofs.WordFaults
import Bindery.Proofs.Writing
import Bindery.Registry
import Bindery.Report
import Bindery.Route
import Bindery.Session
import Bindery.Settings
import Bindery.Table
import Bindery.Target
import Bindery.Template.Lexeme
import Bindery.Template.Render
import Bindery.Template.Tree
import Bindery.Text.Base64
import Bindery.Text.Blank
import Bindery.Text.CamelCase
import Bindery.Text.CodeRanges
import Bindery.Text.Digit
import Bindery.Text.Lines
import Bindery.Text.Printable
import Bindery.Text.Quoted
import Bindery.Text.Upper
import Bindery.Text.Word
import Bindery.Token
import Bindery.Value
import Bindery.Value.Literal
import Bindery.Yaml.Build
import Bindery.Yaml.Cursor
import Bindery.Yaml.Graph
import Bindery.Yaml.Lexeme
import Bindery.Yaml.Outline
import Bindery.Yaml.Scalar
import Bindery.Yaml.TypeTag
