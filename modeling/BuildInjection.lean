import BuildInjection.Check
import BuildInjection.CommandLine.Options
import BuildInjection.CommandLine.Program
import BuildInjection.ConfigTree.Basic
import BuildInjection.ConfigTree.Printer
import BuildInjection.ConfigTree.Reader
import BuildInjection.Cut
import BuildInjection.Decimal.Binary64
import BuildInjection.Decimal.Shortest
import BuildInjection.Dependency
import BuildInjection.EarModule
import BuildInjection.Environment
import BuildInjection.Error
import BuildInjection.FileSystem.Path
import BuildInjection.FileSystem.Storage
import BuildInjection.Goal
import BuildInjection.Host
import BuildInjection.Injection.Item
import BuildInjection.Injection.Outcome
import BuildInjection.Injection.Run
import BuildInjection.Injection.Selection
import BuildInjection.Injection.Sequence
import BuildInjection.Injection.Summary
import BuildInjection.Injection.Target
import BuildInjection.Json
import BuildInjection.Log.Detail
import BuildInjection.Log.Directive
import BuildInjection.Log.Entry
import BuildInjection.Log.Event
import BuildInjection.Log.Filter
import BuildInjection.Log.Logged
import BuildInjection.Log.Pattern
import BuildInjection.Main
import BuildInjection.OrderedMap
import BuildInjection.Output
import BuildInjection.Plugin
import BuildInjection.Project
import BuildInjection.ProjectFile.Basic
import BuildInjection.ProjectFile.Model
import BuildInjection.ProjectFile.Schema
import BuildInjection.ProjectFile.Validation
import BuildInjection.Proofs.CommandLine.ExitCode
import BuildInjection.Proofs.ConfigTree.EscapedText
import BuildInjection.Proofs.ConfigTree.Loaded
import BuildInjection.Proofs.ConfigTree.Nodes
import BuildInjection.Proofs.ConfigTree.Reload
import BuildInjection.Proofs.ConfigTree.RoundTrip
import BuildInjection.Proofs.ConfigTree.Unambiguous
import BuildInjection.Proofs.Cut
import BuildInjection.Proofs.Dependency
import BuildInjection.Proofs.EarModule
import BuildInjection.Proofs.Environment
import BuildInjection.Proofs.Fallible
import BuildInjection.Proofs.Injection.Atomicity
import BuildInjection.Proofs.Injection.Configuration
import BuildInjection.Proofs.Injection.Growth
import BuildInjection.Proofs.Injection.Item
import BuildInjection.Proofs.Injection.Lookup
import BuildInjection.Proofs.Injection.Place
import BuildInjection.Proofs.Injection.Reference
import BuildInjection.Proofs.Injection.Run
import BuildInjection.Proofs.Injection.Selection
import BuildInjection.Proofs.Injection.Sequence
import BuildInjection.Proofs.Injection.Soundness
import BuildInjection.Proofs.Injection.Summary
import BuildInjection.Proofs.Injection.Trace
import BuildInjection.Proofs.Json
import BuildInjection.Proofs.ModuleSpec
import BuildInjection.Proofs.OrderedMap
import BuildInjection.Proofs.Output
import BuildInjection.Proofs.Project
import BuildInjection.Proofs.ProjectFile.Description
import BuildInjection.Proofs.ProjectFile.Model
import BuildInjection.Proofs.ProjectFile.Tables
import BuildInjection.Proofs.ProjectFile.Validation
import BuildInjection.Proofs.Report
import BuildInjection.Proofs.Text
import BuildInjection.Proofs.Toml.DistinctKeys
import BuildInjection.Proofs.Toml.Document
import BuildInjection.Proofs.Xml.CharacterData
import BuildInjection.Proofs.Xml.Element
import BuildInjection.Proofs.Xml.Markup
import BuildInjection.Proofs.Xml.Name
import BuildInjection.Text.Basic
import BuildInjection.Text.CharacterClass
import BuildInjection.Text.Quoted
import BuildInjection.Text.Scan
import BuildInjection.Text.Utf8
import BuildInjection.Toml.DateTable
import BuildInjection.Toml.DateTime
import BuildInjection.Toml.Document
import BuildInjection.Toml.Draft
import BuildInjection.Toml.Group
import BuildInjection.Toml.Printer
import BuildInjection.Toml.Quoted
import BuildInjection.Toml.Scalar
import BuildInjection.Toml.Token
import BuildInjection.Toml.Value
import BuildInjection.Xml.CharacterData
import BuildInjection.Xml.Characters
import BuildInjection.Xml.Document
import BuildInjection.Xml.Element
import BuildInjection.Xml.Markup
import BuildInjection.Xml.Name
import BuildInjection.Xml.Namespaces
