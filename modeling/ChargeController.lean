import ChargeController.Main
import ChargeController.Proofs.Dialogue.Crew
import ChargeController.Proofs.Register.Hundredths
import ChargeController.Proofs.Settings.Freshness
import ChargeController.Proofs.Settings.Sections
import ChargeController.Service.Watchdog
import ChargeController.Session.Script
import ChargeController.Proofs.Settings.Gate
import ChargeController.Proofs.Settings.Plan
import ChargeController.Proofs.Settings.Discipline
import ChargeController.Proofs.Settings.View
import ChargeController.Proofs.Settings.ReadBack
import ChargeController.Proofs.Dialogue.Callers
import ChargeController.Proofs.Dialogue.Turns
import ChargeController.Proofs.Bus.Serialization
import ChargeController.Proofs.Telemetry.Notices
import ChargeController.Proofs.Telemetry.Flight
import ChargeController.Proofs.Telemetry.Accounting
import ChargeController.Proofs.Telemetry.Decoding
import ChargeController.Proofs.Telemetry.Gathering
import ChargeController.Proofs.Telemetry.Agreement
import ChargeController.Proofs.Bus.Attempts
import ChargeController.Proofs.Bus.Masking
import ChargeController.Proofs.Bus.Winding
import ChargeController.Proofs.Bus.Closing
import ChargeController.Proofs.Settings.Blame
import ChargeController.Proofs.Session.Lone
import ChargeController.Proofs.Settings.Strictness
import ChargeController.Proofs.Service.Pinging
import ChargeController.Proofs.Telemetry.Mirror
import ChargeController.Proofs.Session.Polling
import ChargeController.Proofs.Settings.Parity
import ChargeController.Proofs.Service.Layering
import ChargeController.Proofs.Calendar.Dates
import ChargeController.Proofs.Json.Formats
import ChargeController.Proofs.Json.RoundTrip
import ChargeController.Proofs.Telemetry.Spacing
import ChargeController.Proofs.Settings.Repetition
import ChargeController.Proofs.Settings.CachedRead
import ChargeController.Proofs.Session.Deadline
import ChargeController.Proofs.Bus.Blocks
import ChargeController.Proofs.Telemetry.Topics
import ChargeController.Proofs.Settings.Ranges
import ChargeController.Proofs.Settings.Query
import ChargeController.Proofs.Bus.Refusal
import ChargeController.Proofs.Register.Decoders
import ChargeController.Proofs.Settings.Merging
import ChargeController.Proofs.Bus.Switches
import ChargeController.Proofs.Service.Flags
