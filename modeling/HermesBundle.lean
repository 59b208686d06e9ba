import HermesBundle.Build.BuildTask
import HermesBundle.Build.Interleaving
import HermesBundle.Main
import HermesBundle.SourceMap.Lookup
import HermesBundle.Proofs.SourceMap.Chain
import HermesBundle.Proofs.SourceMap.Grouping
import HermesBundle.Proofs.Build.Outcome
import HermesBundle.Proofs.SourceMap.FixedPoint
import HermesBundle.Proofs.Build.Cancellation
import HermesBundle.Proofs.Build.Abandonment
import HermesBundle.Proofs.Build.Separation
import HermesBundle.Proofs.SourceMap.Accounting
import HermesBundle.Proofs.Build.Foreign
import HermesBundle.Proofs.Storage.Spelling
import HermesBundle.Proofs.Storage.Twins
import HermesBundle.Proofs.Storage.Writing
import HermesBundle.Proofs.Build.Acquisition
import HermesBundle.Proofs.Build.Traces
import HermesBundle.Proofs.Json.Encoding
import HermesBundle.Proofs.CommandLine.Drafts
import HermesBundle.Proofs.CommandLine.Publication
import HermesBundle.Proofs.Ordering.Halving
import HermesBundle.Proofs.SourceMap.Scanning
import HermesBundle.Proofs.SourceMap.Sections
import HermesBundle.Proofs.SourceMap.Roots
import HermesBundle.Proofs.SourceMap.Grammar
import HermesBundle.Proofs.SourceMap.Canonical
import HermesBundle.Proofs.SourceMap.Tables
import HermesBundle.Proofs.CommandLine.EngineCheck
import HermesBundle.Proofs.SourceMap.Attachments
import HermesBundle.Proofs.Engine.Properties
import HermesBundle.Proofs.Engine.Scripts
import HermesBundle.Proofs.Bytecode.Headers
import HermesBundle.Proofs.Build.Scopes
import HermesBundle.Proofs.Build.Sessions
import HermesBundle.Proofs.Project.Recency
import HermesBundle.Proofs.Project.ModuleSearch
import HermesBundle.Proofs.Project.Rendering
