import BuildDispatch.Log.Template
import BuildDispatch.Main
import BuildDispatch.Proofs.Run
import BuildDispatch.Proofs.Command.Runner
import BuildDispatch.Proofs.Operation.Footprint
import BuildDispatch.Proofs.Bindings
import BuildDispatch.Proofs.Catalogue
import BuildDispatch.Proofs.Config.Fields
import BuildDispatch.Proofs.Config.Entry
import BuildDispatch.Proofs.Operation.HelperProtocol
import BuildDispatch.Proofs.Session.Steps
import BuildDispatch.Proofs.Library.Lookup
import BuildDispatch.Proofs.Session.Linkage
import BuildDispatch.Proofs.Session.Transparency
import BuildDispatch.Proofs.Config.Acceptance
import BuildDispatch.Proofs.Text.Split
import BuildDispatch.Proofs.Text.Utf8
import BuildDispatch.Proofs.Command.Filtering
import BuildDispatch.Proofs.Command.Sinks
import BuildDispatch.Proofs.Operation.Success
import BuildDispatch.Proofs.Options.Read
import BuildDispatch.Proofs.CommandLine.ExitStatus
import BuildDispatch.Proofs.CommandLine.Loading
import BuildDispatch.Proofs.Invocation
import BuildDispatch.Proofs.Run.Alongside
import BuildDispatch.Proofs.Operation.Routing
import BuildDispatch.Proofs.Operation.Obstacles
import BuildDispatch.Proofs.Operation.Rehearsal
import BuildDispatch.Proofs.Session.Listing
import BuildDispatch.Proofs.Session.Instances
import BuildDispatch.Proofs.CommandLine.Gate
import BuildDispatch.Proofs.Operation.Environment
import BuildDispatch.Proofs.Session.Bundling
import BuildDispatch.Proofs.Command.Verdicts
import BuildDispatch.Proofs.Log.Delivery
import BuildDispatch.Proofs.Log.Colours
import BuildDispatch.Proofs.Operation.Verbosity
import BuildDispatch.Proofs.Session.Verbosity
import BuildDispatch.Proofs.Library.Classification
import BuildDispatch.Proofs.Session.Strays
import BuildDispatch.Proofs.Operation.Alarms
import BuildDispatch.Proofs.Operation.Whereabouts
import BuildDispatch.Proofs.Invocation.Environment
import BuildDispatch.Proofs.Options.Order
import BuildDispatch.Proofs.CommandLine.Order
import BuildDispatch.Proofs.Calendar
import BuildDispatch.Proofs.Operation.Report
import BuildDispatch.Proofs.Value.Keys
import BuildDispatch.Proofs.Yaml.Building
import BuildDispatch.Proofs.Yaml.Account
import BuildDispatch.Proofs.Config.Repeated
import BuildDispatch.Proofs.Library.SearchPath
import BuildDispatch.Proofs.Path
import BuildDispatch.Proofs.Library.Reporting
