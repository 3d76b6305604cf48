import RingOperator.Addressing
import RingOperator.Api.Call
import RingOperator.Api.ConfigMaps
import RingOperator.Api.Sending
import RingOperator.Api.Server
import RingOperator.Api.Stores
import RingOperator.Bringup
import RingOperator.Cluster.Codec
import RingOperator.Cluster.Spec
import RingOperator.Cluster.Status
import RingOperator.Dialogue
import RingOperator.Failure
import RingOperator.Http.Basic
import RingOperator.Http.Jolokia
import RingOperator.Http.Prober
import RingOperator.Jobs.Bench
import RingOperator.Jobs.Record
import RingOperator.Jobs.Store
import RingOperator.Jobs.Tracker
import RingOperator.Json.Basic
import RingOperator.Json.Patch
import RingOperator.Json.Reader
import RingOperator.Json.Record
import RingOperator.Json.Writer
import RingOperator.Labels
import RingOperator.Main
import RingOperator.Naming
import RingOperator.NodeControl
import RingOperator.Objects
import RingOperator.Objects.Shape
import RingOperator.Objects.Shape.Container
import RingOperator.Objects.Shape.Kinds
import RingOperator.Objects.Shape.Metadata
import RingOperator.Objects.Shape.Volume
import RingOperator.Pass
import RingOperator.Reconcile
import RingOperator.Proofs.Jobs.Requests
import RingOperator.Proofs.Logs
import RingOperator.Regions
import RingOperator.Rehearsal.Bringup
import RingOperator.Rehearsal.Outages
import RingOperator.Rehearsal.Peers
import RingOperator.Rehearsal.Ring
import RingOperator.Rehearsal.Site
import RingOperator.Report
import RingOperator.Scaling.Intent
import RingOperator.Scaling.Step
import RingOperator.Seeding
import RingOperator.Settings.Basic
import RingOperator.Settings.Codec
import RingOperator.Settings.Flags
import RingOperator.Snapshot
import RingOperator.StartSheet
import RingOperator.Table
import RingOperator.Telemetry
import RingOperator.Text.Base64
import RingOperator.Text.Blank
import RingOperator.Text.Decimal
import RingOperator.Text.Numeral
import RingOperator.Text.Quoted
import RingOperator.Text.Ranges
import RingOperator.Text.Shown
import RingOperator.Time.Calendar
import RingOperator.Time.Instant
import RingOperator.Time.Written
import RingOperator.Proofs.Scaling.Requests
import RingOperator.Proofs.Scaling.Safety
import RingOperator.Proofs.Scaling.Passes
import RingOperator.Proofs.Scaling.Registry
import RingOperator.Proofs.Scaling.Updates
import RingOperator.Proofs.Scaling.InFlight
import RingOperator.Proofs.Naming
import RingOperator.Proofs.Table
import RingOperator.Proofs.Pass
import RingOperator.Proofs.Snapshot
import RingOperator.Proofs.StartSheet
import RingOperator.Proofs.Cluster.Spec
import RingOperator.Proofs.Bringup.Schedule
import RingOperator.Proofs.Bringup.View
import RingOperator.Proofs.Bringup.Turn
import RingOperator.Proofs.Bringup.Order
import RingOperator.Proofs.Regions.Plan
import RingOperator.Proofs.Regions.Federation
import RingOperator.Proofs.Regions.Gating
import RingOperator.Proofs.Regions.Turns
import RingOperator.Proofs.Jobs.Ledger
import RingOperator.Proofs.Jobs.SingleFlight
import RingOperator.Proofs.Pass.Calls
import RingOperator.Proofs.Pass.Facts
import RingOperator.Proofs.Bringup.Growth
import RingOperator.Proofs.Bringup.Joining
import RingOperator.Proofs.Jobs.Authors
import RingOperator.Proofs.Scaling.Remains
import RingOperator.Proofs.Reconcile.Parts
import RingOperator.Proofs.Reconcile.Listing
import RingOperator.Proofs.Pass.Memory
import RingOperator.Proofs.Scaling.Approach
import RingOperator.Proofs.Scaling.Counts
import RingOperator.Proofs.Scaling.Results
import RingOperator.Proofs.Json.Fields
import RingOperator.Proofs.Runs
import RingOperator.Proofs.Api.Objects
import RingOperator.Proofs.Api.Server
import RingOperator.Proofs.Seeding
import RingOperator.Proofs.Reconcile.World
import RingOperator.Proofs.Reconcile.Repeat
import RingOperator.Proofs.Scaling.Departure
import RingOperator.Proofs.Bringup.Starting
import RingOperator.Proofs.Bringup.Seeds
import RingOperator.Proofs.Jobs.Memory
import RingOperator.Proofs.Json.Records
import RingOperator.Proofs.Http.Views
import RingOperator.Proofs.Scaling.Replies
import RingOperator.Proofs.Pass.Unscheduled
import RingOperator.Proofs.Seeding.Places
import RingOperator.Proofs.Objects.Patched
import RingOperator.Proofs.Reconcile.Patches
import RingOperator.Proofs.Regions.Fetching
import RingOperator.Proofs.StartSheet.Reading
import RingOperator.Proofs.Seeding.Counts
import RingOperator.Proofs.Reconcile.Pacing
import RingOperator.Proofs.Text.Numeral
import RingOperator.Proofs.Json.RoundTrip
import RingOperator.Proofs.Time.Written
import RingOperator.Proofs.Api.Records
import RingOperator.Proofs.Cluster.Codec
import RingOperator.Proofs.Cluster.Status
import RingOperator.Proofs.Reconcile.Status
import RingOperator.Proofs.Jobs.Completion
import RingOperator.Proofs.Naming.Pods
import RingOperator.Proofs.Naming.Aliases
import RingOperator.Proofs.Jobs.Heartbeats
import RingOperator.Proofs.Settings
