import CqlDispatch.Admission
import CqlDispatch.Backoff
import CqlDispatch.Balancer
import CqlDispatch.Client
import CqlDispatch.Cluster
import CqlDispatch.Column
import CqlDispatch.Consistency
import CqlDispatch.Credentials
import CqlDispatch.Decimal.Binary
import CqlDispatch.Decimal.Shortest
import CqlDispatch.Description.Failure
import CqlDispatch.Description.Host
import CqlDispatch.Description.Options
import CqlDispatch.Description.Policy
import CqlDispatch.Description.Reading
import CqlDispatch.Description.Scene
import CqlDispatch.Description.Settings
import CqlDispatch.Description.Value
import CqlDispatch.Failure
import CqlDispatch.Host
import CqlDispatch.Json
import CqlDispatch.Json.Reader
import CqlDispatch.Metrics
import CqlDispatch.Metrics.Meters
import CqlDispatch.NameMap
import CqlDispatch.Net.Ip
import CqlDispatch.Options
import CqlDispatch.Plan
import CqlDispatch.Policies
import CqlDispatch.Proofs.Balancer.Bound
import CqlDispatch.Proofs.Balancer.Plans
import CqlDispatch.Proofs.Cluster.Change
import CqlDispatch.Proofs.NameMap
import CqlDispatch.Proofs.Plan.Offers
import CqlDispatch.Proofs.Plan.Pull
import CqlDispatch.Proofs.Registry.Change
import CqlDispatch.Proofs.Registry.Members
import CqlDispatch.Proofs.Request.Delivery
import CqlDispatch.Proofs.Request.Outcome
import CqlDispatch.Proofs.Request.Run
import CqlDispatch.Proofs.Request.Turns
import CqlDispatch.Reconnector
import CqlDispatch.Registry
import CqlDispatch.Rehearsal
import CqlDispatch.Request
import CqlDispatch.Retry
import CqlDispatch.Row
import CqlDispatch.RowMapping
import CqlDispatch.Settings
import CqlDispatch.Settings.Document
import CqlDispatch.Settings.Environment
import CqlDispatch.Settings.File
import CqlDispatch.Settings.Toml
import CqlDispatch.Settings.Toml.Scalar
import CqlDispatch.Settings.Toml.Table
import CqlDispatch.Settings.Toml.Value
import CqlDispatch.Settings.Yaml
import CqlDispatch.Settings.Yaml.Node
import CqlDispatch.Settings.Yaml.Scalar
import CqlDispatch.Settings.Yaml.Token
import CqlDispatch.Speculation
import CqlDispatch.Text.Base64
import CqlDispatch.Text.Blank
import CqlDispatch.Text.Case
import CqlDispatch.Text.CaseTable
import CqlDispatch.Text.Digits
import CqlDispatch.Text.Quoted
import CqlDispatch.Text.Spaces
import CqlDispatch.Text.Unsigned
import CqlDispatch.Text.VisibleTable
import CqlDispatch.Time.Calendar
import CqlDispatch.Time.Span
import CqlDispatch.Timestamp
import CqlDispatch.Token
import CqlDispatch.TokenRing
import CqlDispatch.Translator
import CqlDispatch.Tuple
import CqlDispatch.Value
import CqlDispatch.Value.Json
import CqlDispatch.Value.Text
import CqlDispatch.Proofs.Cluster.Course
import CqlDispatch.Proofs.Registry.Log
import CqlDispatch.Proofs.Client.Step
import CqlDispatch.Proofs.Client.Reconnection
import CqlDispatch.Proofs.Lookup
import CqlDispatch.Proofs.Cluster.Effect
import CqlDispatch.Proofs.Cluster.Replay
import CqlDispatch.Proofs.TokenRing
import CqlDispatch.Proofs.Registry.Snapshot
import CqlDispatch.Proofs.Cluster.Snapshot
import CqlDispatch.Proofs.Admission.Pool
import CqlDispatch.Proofs.Admission.History
import CqlDispatch.Proofs.Admission.Ledger
import CqlDispatch.Proofs.Admission.Order
import CqlDispatch.Proofs.Request.Sending
import CqlDispatch.Proofs.Request.Slots
import CqlDispatch.Proofs.Client.Sending
import CqlDispatch.Proofs.Reconnector.Books
import CqlDispatch.Proofs.Client.Log
import CqlDispatch.Proofs.Client.Supervision
import CqlDispatch.Proofs.Client.Pace
import CqlDispatch.Proofs.Client.Slots
import CqlDispatch.Proofs.Client.Ended
import CqlDispatch.Proofs.Client.Exhaustion
import CqlDispatch.Proofs.Cluster.Reports
import CqlDispatch.Proofs.Client.Steady
import CqlDispatch.Proofs.Client.Demotion
import CqlDispatch.Proofs.Client.Lagging
import CqlDispatch.Proofs.Client.HostStates
import CqlDispatch.Proofs.Request.Walk
import CqlDispatch.Proofs.Client.Alone
import CqlDispatch.Proofs.Balancer.Anew
import CqlDispatch.Proofs.Cluster.Answers
import CqlDispatch.Proofs.Cluster.Ranking
import CqlDispatch.Proofs.Cluster.Stale
import CqlDispatch.Proofs.Cluster.UpCount
import CqlDispatch.Proofs.Client.Gauge
import CqlDispatch.Proofs.Cluster.Reconcile
import CqlDispatch.Proofs.Cluster.Remembered
import CqlDispatch.Proofs.Client.Contacts
import CqlDispatch.Proofs.Request.Pools
import CqlDispatch.Proofs.Request.LetDown
import CqlDispatch.Proofs.Client.Queues
import CqlDispatch.Proofs.Metrics.Meters
import CqlDispatch.Proofs.Request.Calls
import CqlDispatch.Proofs.Client.Metered
import CqlDispatch.Proofs.Balancer.Replicas
import CqlDispatch.Proofs.TokenRing.Replicas
import CqlDispatch.Proofs.Balancer.Datacenters
import CqlDispatch.Proofs.Cluster.Routing
import CqlDispatch.Proofs.Cluster.Datacenters
import CqlDispatch.Proofs.Request.Attempts
import CqlDispatch.Proofs.Request.Lost
import CqlDispatch.Proofs.Request.Ending
import CqlDispatch.Proofs.Request.Strides
import CqlDispatch.Proofs.Request.Report
import CqlDispatch.Proofs.Request.Summary
import CqlDispatch.Proofs.Client.Stamps
import CqlDispatch.Proofs.Request.Copies
import CqlDispatch.Proofs.Client.Copies
import CqlDispatch.Proofs.Backoff
import CqlDispatch.Proofs.Timestamp.Readings
import CqlDispatch.Proofs.Timestamp.Warnings
import CqlDispatch.Proofs.LatinSquare
import CqlDispatch.Proofs.Balancer.Rota
import CqlDispatch.Proofs.Cluster.Repeated
import CqlDispatch.Proofs.Cluster.Rota
import CqlDispatch.Proofs.Credentials
import CqlDispatch.Proofs.Settings.Document
import CqlDispatch.Proofs.Json
import CqlDispatch.Proofs.Row
import CqlDispatch.Proofs.RowMapping
import CqlDispatch.Proofs.Naming
import CqlDispatch.Proofs.Token
import CqlDispatch.Proofs.Text.Digits
import CqlDispatch.Proofs.Time.Calendar
import CqlDispatch.Proofs.Net.Ip
import CqlDispatch.Proofs.Value.Scalars
import CqlDispatch.Proofs.Value.Held
import CqlDispatch.Proofs.Value.Reading
import CqlDispatch.Proofs.Value.Nesting
import CqlDispatch.Proofs.Value.Collisions
import CqlDispatch.Proofs.Value.Keys
import CqlDispatch.Proofs.Column
import CqlDispatch.Proofs.Options
import CqlDispatch.Proofs.Balancer.Layers
import CqlDispatch.Proofs.Rehearsal
