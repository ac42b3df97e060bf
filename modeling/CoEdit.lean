import CoEdit.ClientView
import CoEdit.Delivery.Tap
import CoEdit.Engine.Command
import CoEdit.Main
import CoEdit.Proofs.Engine.Chronicle
import CoEdit.Proofs.Engine.Mirror
import CoEdit.Proofs.Engine.Rebuild
import CoEdit.Proofs.Engine.Routing
import CoEdit.Proofs.Engine.TimeTravel
import CoEdit.Proofs.Engine.Whereabouts
import CoEdit.Proofs.Rpc.Refusal
import CoEdit.Recording.Export
import CoEdit.Recording.Replay
import CoEdit.Rpc.Server
import CoEdit.Wire.Config
import CoEdit.Proofs.Session.Course
import CoEdit.Proofs.Session.Growth
import CoEdit.Proofs.Session.LifeCycle
import CoEdit.Proofs.Session.Places
import CoEdit.Proofs.Delivery.Twins
import CoEdit.Proofs.Engine.Places
import CoEdit.Proofs.Engine.Twins
import CoEdit.Proofs.Engine.Confinement
import CoEdit.Proofs.Session.Compaction
import CoEdit.Proofs.Engine.Compaction
import CoEdit.Proofs.Delivery.Past
import CoEdit.Proofs.Delivery.Ledger
import CoEdit.Proofs.Time.Calendar
import CoEdit.Proofs.Decimal.Digits
import CoEdit.Proofs.Time.Rfc3339
import CoEdit.Proofs.Json.Tokens
import CoEdit.Proofs.Json.RoundTrip
import CoEdit.Proofs.Decode.Fields
import CoEdit.Proofs.Wire.Entry
import CoEdit.Proofs.Recording.Export
import CoEdit.Proofs.Engine.Footprint
import CoEdit.Proofs.Json.Canonical
import CoEdit.Proofs.Rpc.Transparency
import CoEdit.Proofs.Rpc.Serving
import CoEdit.Proofs.Wire.Session
import CoEdit.Proofs.Wire.Notice
import CoEdit.Proofs.Wire.RoundTrip
import CoEdit.Proofs.Engine.Admission
import CoEdit.Proofs.Engine.Numbers
import CoEdit.Proofs.Engine.Cursors
import CoEdit.Proofs.Engine.Independence
import CoEdit.Proofs.Engine.Joining
import CoEdit.Proofs.Engine.Leaving
import CoEdit.Proofs.Engine.Sweeping
import CoEdit.Proofs.Engine.PublicListing
import CoEdit.Proofs.Engine.Authoring
import CoEdit.Proofs.Document
import CoEdit.Proofs.Rpc.Editing
import CoEdit.Proofs.Recording.Logging
import CoEdit.Proofs.Recording.Cut
import CoEdit.Proofs.Recording.Room
import CoEdit.Proofs.Config
import CoEdit.Proofs.Engine.Opening
