import SpecTest.CommandLine.Console
import SpecTest.CommandLine.Parser
import SpecTest.CommandLine.Program
import SpecTest.Coverage.Index
import SpecTest.Coverage.Lines
import SpecTest.Coverage.Page
import SpecTest.Coverage.Percent
import SpecTest.Coverage.Recorder
import SpecTest.Coverage.Table
import SpecTest.Data.Ascending
import SpecTest.Data.Sum
import SpecTest.Disk
import SpecTest.Document.Decode
import SpecTest.Document.Encode
import SpecTest.Document.Format
import SpecTest.Document.Load
import SpecTest.Expectation
import SpecTest.Failure
import SpecTest.Host
import SpecTest.Interpreter
import SpecTest.Json.Format
import SpecTest.Json.Reader
import SpecTest.Json.Value
import SpecTest.Json.Writer
import SpecTest.Location
import SpecTest.Log
import SpecTest.Main
import SpecTest.Markup.Escape
import SpecTest.Number.Binary64
import SpecTest.Path
import SpecTest.Pattern.Basic
import SpecTest.Pattern.Class
import SpecTest.Pattern.Parser
import SpecTest.Pattern.Reader
import SpecTest.Proofs.Coverage.AllOrNothing
import SpecTest.Proofs.Coverage.Bytes
import SpecTest.Proofs.Coverage.Clearing
import SpecTest.Proofs.Coverage.Counting
import SpecTest.Proofs.Coverage.Cutting
import SpecTest.Proofs.Coverage.Fitting
import SpecTest.Proofs.Coverage.Lookup
import SpecTest.Proofs.Coverage.Offsets
import SpecTest.Proofs.Coverage.PageLayout
import SpecTest.Proofs.Coverage.Positions
import SpecTest.Proofs.Coverage.Readback
import SpecTest.Proofs.Coverage.Recording
import SpecTest.Proofs.Coverage.Totals
import SpecTest.Proofs.Data.Keys
import SpecTest.Proofs.Data.Success
import SpecTest.Proofs.Data.Sums
import SpecTest.Proofs.Disk.Entries
import SpecTest.Proofs.Disk.Following
import SpecTest.Proofs.Disk.Making
import SpecTest.Proofs.Disk.Touching
import SpecTest.Proofs.Disk.Writing
import SpecTest.Proofs.Document.Parts
import SpecTest.Proofs.Document.Roundtrip
import SpecTest.Proofs.Expectation.Markers
import SpecTest.Proofs.Host.Failing
import SpecTest.Proofs.Host.Logging
import SpecTest.Proofs.Host.Reading
import SpecTest.Proofs.Host.Tasks
import SpecTest.Proofs.Host.Touching
import SpecTest.Proofs.Json.Reading
import SpecTest.Proofs.Markup.Contents
import SpecTest.Proofs.Markup.Entities
import SpecTest.Proofs.Markup.Escaping
import SpecTest.Proofs.Markup.LineBreaks
import SpecTest.Proofs.Markup.Pieces
import SpecTest.Proofs.Markup.Preformatted
import SpecTest.Proofs.Markup.References
import SpecTest.Proofs.Markup.Tags
import SpecTest.Proofs.Markup.Xml
import SpecTest.Proofs.Path.Child
import SpecTest.Proofs.Path.Directory
import SpecTest.Proofs.Path.Parent
import SpecTest.Proofs.Path.Place
import SpecTest.Proofs.Path.Plain
import SpecTest.Proofs.Path.Route
import SpecTest.Proofs.Path.Spelling
import SpecTest.Proofs.Report.Confinement
import SpecTest.Proofs.Report.Conformance
import SpecTest.Proofs.Report.Contents
import SpecTest.Proofs.Report.Descriptors
import SpecTest.Proofs.Report.Directories
import SpecTest.Proofs.Report.Documents
import SpecTest.Proofs.Report.Failures
import SpecTest.Proofs.Report.LaunchSettings
import SpecTest.Proofs.Report.Readback
import SpecTest.Proofs.Report.Refusing
import SpecTest.Proofs.Report.Requests
import SpecTest.Proofs.Report.Sparing
import SpecTest.Proofs.Report.Times
import SpecTest.Proofs.Run.Logging
import SpecTest.Proofs.Run.Memory
import SpecTest.Proofs.Run.Precedence
import SpecTest.Proofs.Run.Protocol
import SpecTest.Proofs.Run.Scope
import SpecTest.Proofs.Run.Verdicts
import SpecTest.Proofs.Session.Accord
import SpecTest.Proofs.Session.Counts
import SpecTest.Proofs.Session.Delivery
import SpecTest.Proofs.Session.Describing
import SpecTest.Proofs.Session.Entries
import SpecTest.Proofs.Session.Launching
import SpecTest.Proofs.Session.Layering
import SpecTest.Proofs.Session.Listing
import SpecTest.Proofs.Session.Logging
import SpecTest.Proofs.Session.Phases
import SpecTest.Proofs.Session.Respelling
import SpecTest.Proofs.Session.Setup
import SpecTest.Proofs.Session.SourceRoots
import SpecTest.Proofs.Session.Stages
import SpecTest.Proofs.Session.Suites
import SpecTest.Proofs.Session.Survival
import SpecTest.Proofs.Text.Digits
import SpecTest.Proofs.Text.Rewriting
import SpecTest.Proofs.Text.Splitting
import SpecTest.Proofs.Unicode.Lowercase
import SpecTest.Proofs.Unicode.WhiteSpace
import SpecTest.Proofs.Yaml.Fields
import SpecTest.Proofs.Yaml.Steady
import SpecTest.Report.Files
import SpecTest.Report.Junit
import SpecTest.Report.Launch
import SpecTest.Runner
import SpecTest.Selector
import SpecTest.Session
import SpecTest.Settings
import SpecTest.Suite
import SpecTest.Text.Digits
import SpecTest.Text.Split
import SpecTest.Timestamp
import SpecTest.Transcript
import SpecTest.Unicode.Case
import SpecTest.Unicode.CaseTable
import SpecTest.Unicode.CategoryTable
import SpecTest.Unicode.CharSet
import SpecTest.Unicode.Property
import SpecTest.Unicode.PropertyTable
import SpecTest.Unicode.ScriptTable
import SpecTest.Verbosity
import SpecTest.Verdict
import SpecTest.Violation
import SpecTest.Yaml.Cursor
import SpecTest.Yaml.Format
import SpecTest.Yaml.Node
import SpecTest.Yaml.Plain
import SpecTest.Yaml.Scalar
import SpecTest.Yaml.Token
