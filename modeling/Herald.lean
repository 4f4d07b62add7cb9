import Herald.Text.Quoted
import Herald.Json.Reader
import Herald.Json.Writer
import Herald.Channel.Parse
import Herald.Template.Basic
import Herald.Template.Scope
import Herald.Template.Key
import Herald.Substitution
import Herald.Notification.Render
import Herald.Metrics
import Herald.Directory
import Herald.Store.Seed
import Herald.Cache.Invalidation
import Herald.Resolution.Resolve
import Herald.Resolution.World
import Herald.Engine
import Herald.Command
import Herald.Main
import Herald.Proofs.Program.Follows
import Herald.Proofs.Resolution.Outcome
import Herald.Proofs.Resolution.Window
import Herald.Proofs.Resolution.ReadThrough
import Herald.Proofs.Resolution.Search
import Herald.Proofs.Resolution.Sources
import Herald.Proofs.Resolution.Findings
import Herald.Proofs.Resolution.Retry
import Herald.Proofs.Locale.Canonical
import Herald.Proofs.Locale.Grammar
import Herald.Proofs.Cache.Entries
import Herald.Proofs.Resolution.Scene
import Herald.Proofs.Resolution.Order
import Herald.Proofs.Store.Paths
import Herald.Proofs.Store.Rows
import Herald.Proofs.Cache.Targets
import Herald.Proofs.Resolution.Reads
import Herald.Proofs.Resolution.Fresh
import Herald.Proofs.Resolution.Gaps
import Herald.Proofs.Resolution.Recall
import Herald.Proofs.Transparency
import Herald.Proofs.Coherence.Removal
import Herald.Proofs.Coherence.State
import Herald.Proofs.Coherence.Provenance
import Herald.Proofs.Coherence.Traced
import Herald.Proofs.Coherence.Tidy
import Herald.Proofs.Coherence.Fresh
import Herald.Proofs.Substitution.Footprint
import Herald.Proofs.Store.Catalogue
import Herald.Proofs.Service.Machine
import Herald.Proofs.Service.Annotated
import Herald.Proofs.Service.Told
import Herald.Proofs.Service.Isolation
import Herald.Proofs.Service.Validity
import Herald.Proofs.Cache.Exact
import Herald.Proofs.Cache.ByPath
import Herald.Proofs.Notification.Build
import Herald.Proofs.Json.Members
import Herald.Proofs.Json.RoundTrip
import Herald.Proofs.Observation.Figures
import Herald.Proofs.Program.Course
import Herald.Proofs.Resolution.Marks
import Herald.Proofs.Service.Accounting
import Herald.Proofs.Service.Sequential
import Herald.Proofs.Charset.Lossless
import Herald.Proofs.Json.SeedForm
import Herald.Proofs.Cache.Clock
import Herald.Proofs.Store.Seeding
import Herald.Proofs.Json.Literal
import Herald.Proofs.Number.Spelling
import Herald.Proofs.Settings.Places
import Herald.Proofs.Settings.Leaves
import Herald.Proofs.Settings.Names
import Herald.Proofs.Settings.Merged
import Herald.Proofs.Settings.Arrival
import Herald.Proofs.Settings.Verbatim
import Herald.Proofs.Template.Conditions
import Herald.Proofs.Text.ContentType
import Herald.Proofs.Service.Normalized
import Herald.Proofs.Text.Lowercase
import Herald.Proofs.Settings.Overlay
import Herald.Proofs.Settings.Documents
import Herald.Proofs.Settings.Reading
import Herald.Proofs.Settings.Variables
import Herald.Proofs.Settings.Given
import Herald.Proofs.Settings.Layering
