import LinkKeeper.Host.Spawn
import LinkKeeper.Instance.Service
import LinkKeeper.Link.Invocation
import LinkKeeper.Main
import LinkKeeper.Resource.Definition
import LinkKeeper.Session
import LinkKeeper.Startup
import LinkKeeper.Store.Cluster
import LinkKeeper.Watch.Triggers
import LinkKeeper.Yaml.Printer
import LinkKeeper.Proofs.Reconcile.Paths
import LinkKeeper.Proofs.Reconcile.Script
import LinkKeeper.Proofs.Store.Versions
import LinkKeeper.Proofs.Reconcile.Interference
import LinkKeeper.Proofs.Reconcile.Writes
import LinkKeeper.Proofs.Reconcile.TearDown
import LinkKeeper.Proofs.Reconcile.Runs
import LinkKeeper.Proofs.Reconcile.Departure
import LinkKeeper.Proofs.Store.History
import LinkKeeper.Proofs.Watch.Changes
import LinkKeeper.Proofs.Reconcile.Copies
import LinkKeeper.Proofs.Reconcile.Recorded
import LinkKeeper.Proofs.Reconcile.Alone
import LinkKeeper.Proofs.Reconcile.Converged
import LinkKeeper.Proofs.Reconcile.Progress
import LinkKeeper.Proofs.Reconcile.Curable
import LinkKeeper.Proofs.Reconcile.Recovery
import LinkKeeper.Proofs.Reconcile.Rounds
import LinkKeeper.Proofs.Watch.Drops
import LinkKeeper.Proofs.Watch.Members
import LinkKeeper.Proofs.Link.Hosted
import LinkKeeper.Proofs.Link.OwnLink
import LinkKeeper.Proofs.Net.Digits
import LinkKeeper.Proofs.Net.RoundTrip
import LinkKeeper.Proofs.Link.Host
import LinkKeeper.Proofs.Link.Convergence
import LinkKeeper.Proofs.Schedule.Trials
import LinkKeeper.Proofs.Session.Accounts
import LinkKeeper.Proofs.Reconcile.Simulation
import LinkKeeper.Proofs.Reconcile.Notes
import LinkKeeper.Proofs.Store.Current
import LinkKeeper.Proofs.Reconcile.Abreast
import LinkKeeper.Proofs.Session.Commuting
import LinkKeeper.Proofs.Json.RoundTrip
import LinkKeeper.Proofs.Json.Kept
import LinkKeeper.Proofs.Json.Members
import LinkKeeper.Proofs.Json.Fields
import LinkKeeper.Proofs.Resource.Timestamps
import LinkKeeper.Proofs.Resource.Metadata
import LinkKeeper.Proofs.Resource.Objects
import LinkKeeper.Proofs.Store.Requests
import LinkKeeper.Proofs.Store.ApiServer
import LinkKeeper.Proofs.Store.DocumentServer
import LinkKeeper.Proofs.Reconcile.Stores
import LinkKeeper.Proofs.Store.Refinement
import LinkKeeper.Proofs.Link.Differences
import LinkKeeper.Proofs.Link.Reads
import LinkKeeper.Proofs.Link.Survey
import LinkKeeper.Proofs.Link.Runs
import LinkKeeper.Proofs.Link.Addresses
import LinkKeeper.Proofs.Link.HeldAddresses
import LinkKeeper.Proofs.Link.Configured
import LinkKeeper.Proofs.Host.Texts
import LinkKeeper.Proofs.Host.Paths
import LinkKeeper.Proofs.Host.Ends
import LinkKeeper.Proofs.Host.Processes
import LinkKeeper.Proofs.Link.Spawned
import LinkKeeper.Proofs.Link.TornDown
import LinkKeeper.Proofs.Schedule.Delays
import LinkKeeper.Proofs.Watch.Requests
import LinkKeeper.Proofs.Reconcile.DeclaredRoutes
import LinkKeeper.Proofs.Reconcile.Routing
import LinkKeeper.Proofs.Reconcile.Likeness
import LinkKeeper.Proofs.Link.LetterCase
import LinkKeeper.Proofs.Store.LetterCase
import LinkKeeper.Proofs.Reconcile.LetterCase
import LinkKeeper.Proofs.Session.LetterCase
import LinkKeeper.Proofs.Text.Trimming
import LinkKeeper.Proofs.Link.Installed
import LinkKeeper.Proofs.Net.Endpoints
import LinkKeeper.Proofs.Config.Values
import LinkKeeper.Proofs.Config.Environments
import LinkKeeper.Proofs.Decimal.Nearest
import LinkKeeper.Proofs.Decimal.Shortest
import LinkKeeper.Proofs.Json.Doubles
import LinkKeeper.Proofs.Json.Held
import LinkKeeper.Proofs.Json.Readable
import LinkKeeper.Proofs.Json.Unknown
import LinkKeeper.Proofs.Resource.Admitted
import LinkKeeper.Proofs.Resource.Rewritten
