import ApiAudit.ClassFile
import ApiAudit.Classpath
import ApiAudit.Classpath.Loader
import ApiAudit.CommandLine.Check
import ApiAudit.CommandLine.Options
import ApiAudit.CommandLine.Tasks
import ApiAudit.Config.Basic
import ApiAudit.Config.Resolve
import ApiAudit.Data.Json.Read
import ApiAudit.Data.Json.Write
import ApiAudit.Data.Timestamp
import ApiAudit.Data.Value
import ApiAudit.Data.Value.Hash
import ApiAudit.Data.Value.Text
import ApiAudit.Engine.Basic
import ApiAudit.Engine.Calls
import ApiAudit.Engine.Catalog
import ApiAudit.Engine.Factory
import ApiAudit.Environment
import ApiAudit.Failure
import ApiAudit.FileSet
import ApiAudit.FileTree.Basic
import ApiAudit.FileTree.Layout
import ApiAudit.Glob
import ApiAudit.Journal
import ApiAudit.Main
import ApiAudit.Number.Decimal
import ApiAudit.Number.Read
import ApiAudit.Number.Shortest
import ApiAudit.Number.Text
import ApiAudit.Path
import ApiAudit.Run.Basic
import ApiAudit.Run.Drive
import ApiAudit.Run.Kernel
import ApiAudit.Run.Session
import ApiAudit.Schema.Basic
import ApiAudit.Schema.Contracts
import ApiAudit.Schema.Pattern
import ApiAudit.Signature.Grammar
import ApiAudit.Signature.Source
import ApiAudit.Task.Build
import ApiAudit.Task.Check
import ApiAudit.Text.Base64
import ApiAudit.Text.Blank
import ApiAudit.Text.Case
import ApiAudit.Text.FileLines
import ApiAudit.Text.Printable
import ApiAudit.Text.Quoted
import ApiAudit.Text.Ranges
import ApiAudit.Text.Utf8
import ApiAudit.Text.WordChar
import ApiAudit.Trace.Event
import ApiAudit.Trace.Read
import ApiAudit.Yaml.Event
import ApiAudit.Yaml.Event.Parse
import ApiAudit.Yaml.Load
import ApiAudit.Yaml.Mark
import ApiAudit.Yaml.Node
import ApiAudit.Yaml.Tag
import ApiAudit.Yaml.Token
import ApiAudit.Yaml.Token.Cursor
import ApiAudit.Yaml.Token.Property
import ApiAudit.Yaml.Token.Scalar
import ApiAudit.Yaml.Token.Stream
import ApiAudit.Text.Surrogate
import ApiAudit.Text.CodePage437
import ApiAudit.Zip.Crc
import ApiAudit.Zip.Write
import ApiAudit.Zip.Read
import ApiAudit.Proofs.Audit
import ApiAudit.Proofs.Growth
import ApiAudit.Proofs.Frame
import ApiAudit.Proofs.Ends
import ApiAudit.Proofs.Drive
import ApiAudit.Proofs.Kernel
import ApiAudit.Proofs.CallOrder
import ApiAudit.Proofs.Context
import ApiAudit.Proofs.Verdict
import ApiAudit.Proofs.Outcome
import ApiAudit.Proofs.EngineFailures
import ApiAudit.Proofs.FileWalk
import ApiAudit.Proofs.ClasspathRoots
import ApiAudit.Proofs.ExitCodes
import ApiAudit.Proofs.TaskCheck
import ApiAudit.Proofs.SignatureSources
import ApiAudit.Proofs.LoaderCache
import ApiAudit.Proofs.TaskInputs
import ApiAudit.Proofs.TraceFile
import ApiAudit.Proofs.TraceShape
import ApiAudit.Proofs.GlobLanguage
import ApiAudit.Proofs.ClasspathBuild
import ApiAudit.Proofs.WalkOnce
import ApiAudit.Proofs.CommandLineStages
import ApiAudit.Proofs.ResourceLookup
import ApiAudit.Proofs.SignatureSyntax
import ApiAudit.Proofs.EngineLoading
import ApiAudit.Proofs.TaskRunner
import ApiAudit.Proofs.BuildFileLoad
import ApiAudit.Proofs.PatternLists
import ApiAudit.Proofs.EngineLookup
import ApiAudit.Proofs.TraceSchema
import ApiAudit.Proofs.TraceEmit
import ApiAudit.Proofs.TraceEvents
import ApiAudit.Proofs.FileAppend
import ApiAudit.Proofs.Utf8RoundTrip
import ApiAudit.Proofs.OneLine
import ApiAudit.Proofs.TraceStore
