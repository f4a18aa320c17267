import Turnstile.Main
import Turnstile.Shutdown
import Turnstile.Wire.Event
import Turnstile.Wire.Response
import Turnstile.Proofs.Ledger.Entry
import Turnstile.Proofs.Run
import Turnstile.Proofs.Limiter.Charge
import Turnstile.Proofs.Checkpoint.Decision
import Turnstile.Proofs.Checkpoint.Movement
import Turnstile.Proofs.Limiter.Congruence
import Turnstile.Proofs.Limiter.Isolation
import Turnstile.Proofs.Limiter.Alike
import Turnstile.Proofs.Checkpoint.Refused
import Turnstile.Proofs.Checkpoint.Supply
import Turnstile.Proofs.Checkpoint.Reachable
import Turnstile.Proofs.Checkpoint.Preview
import Turnstile.Proofs.Limiter.Impact
import Turnstile.Proofs.Limiter.History
import Turnstile.Proofs.Limiter.Window
import Turnstile.Proofs.Limiter.Cooldown
import Turnstile.Proofs.Limiter.Interval
import Turnstile.Proofs.Limiter.Repetition
import Turnstile.Proofs.Checkpoint.Request
import Turnstile.Proofs.Limiter.Traffic
import Turnstile.Proofs.Json.Layout
import Turnstile.Proofs.Wire.Form
import Turnstile.Proofs.Wire.Snapshot
import Turnstile.Proofs.Ledger.Records
import Turnstile.Proofs.Ledger.Isolation
import Turnstile.Proofs.Table
import Turnstile.Proofs.Checkpoint.Restoration
import Turnstile.Proofs.Seeds
import Turnstile.Proofs.Service.Restart
import Turnstile.Proofs.Limiter.Rotation
import Turnstile.Proofs.Checkpoint.Announcement
import Turnstile.Proofs.Checkpoint.Tally
import Turnstile.Proofs.Audit.Picture
import Turnstile.Proofs.Audit.Collaborators
import Turnstile.Proofs.Audit.Gate
import Turnstile.Proofs.Limiter.Resolution
import Turnstile.Proofs.Checkpoint.Congruence
import Turnstile.Proofs.Checkpoint.Isolation
import Turnstile.Proofs.Checkpoint.History
import Turnstile.Proofs.Limiter.Exemption
import Turnstile.Proofs.Checkpoint.Membership
import Turnstile.Proofs.Checkpoint.Pause
import Turnstile.Proofs.Admin.Authorization
import Turnstile.Proofs.Service.Exchange
import Turnstile.Proofs.Configuration.Declaration
import Turnstile.Proofs.Service.Seeding
import Turnstile.Proofs.Limiter.Stages
import Turnstile.Proofs.Meter
import Turnstile.Proofs.Limiter.Tracking
import Turnstile.Proofs.Checkpoint.Counting
import Turnstile.Proofs.Admin.Direction
import Turnstile.Proofs.Limiter.Allowance
import Turnstile.Proofs.Checkpoint.Retry
import Turnstile.Proofs.Limiter.Easing
import Turnstile.Proofs.Checkpoint.Easing
import Turnstile.Proofs.Batch
import Turnstile.Proofs.Checkpoint.Sender
import Turnstile.Proofs.Limiter.Records
import Turnstile.Proofs.Ledger.Rebuilding
import Turnstile.Proofs.Checkpoint.Normalization
import Turnstile.Proofs.Admin.Limits
import Turnstile.Proofs.Configuration.Correction
import Turnstile.Proofs.Roles
import Turnstile.Proofs.Checkpoint.Roles
import Turnstile.Proofs.Wire.Event
import Turnstile.Proofs.Json.Members
