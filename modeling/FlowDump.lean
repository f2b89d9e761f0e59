import FlowDump.Main
import FlowDump.Proofs.Recording
import FlowDump.Proofs.Watch.Rules
import FlowDump.Proofs.Watch.Outcome
import FlowDump.Proofs.Watch.Producer
import FlowDump.Proofs.Json.LineFeed
import FlowDump.Proofs.Text.Utf8
import FlowDump.Proofs.Flow.Lines
import FlowDump.Proofs.Json.Admitted
import FlowDump.Proofs.Flow.Names
import FlowDump.Proofs.Flow.Numbers
import FlowDump.Proofs.Flow.Fields
import FlowDump.Proofs.Flow.Reingestion
import FlowDump.Proofs.Files.Filesystem
import FlowDump.Proofs.Files.Tree
import FlowDump.Proofs.Gzip.Consumption
import FlowDump.Proofs.Gzip.Members
import FlowDump.Proofs.Gzip.Delivery
import FlowDump.Proofs.Gzip.Truncation
import FlowDump.Proofs.Json.Pretty
import FlowDump.Proofs.Json.Grammar
import FlowDump.Proofs.Request
import FlowDump.Proofs.Files.Change
import FlowDump.Proofs.Files.Path
import FlowDump.Proofs.Files.Temporary
import FlowDump.Proofs.Files.AtomicWrite
import FlowDump.Proofs.Files.Frame
import FlowDump.Proofs.Files.Sharing
import FlowDump.Proofs.Trigger
import FlowDump.Proofs.Watch.Timing
import FlowDump.Proofs.Watch.Hints
import FlowDump.Proofs.Dump.Session
import FlowDump.Proofs.Dump.Operations
import FlowDump.Proofs.Dump.Classification
import FlowDump.Proofs.Watch.Deadline
import FlowDump.Proofs.Watch.Discipline
import FlowDump.Proofs.Watch.Silence
import FlowDump.Proofs.Site
import FlowDump.Proofs.CommandLine.Preparation
import FlowDump.Proofs.CommandLine.Guard
import FlowDump.Proofs.CommandLine.Output
import FlowDump.Proofs.Store.Keys
import FlowDump.Proofs.Store.Glob
import FlowDump.Proofs.Config.Document
import FlowDump.Proofs.Dump.Configured
import FlowDump.Rehearsal.Hosts
