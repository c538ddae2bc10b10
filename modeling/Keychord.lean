import Keychord.Bus
import Keychord.CommandLine.Basic
import Keychord.Key.Press
import Keychord.Keymap.Traced
import Keychord.Main
import Keychord.Proofs.Keymap.Lookup
import Keychord.Proofs.Keymap.Reordering
import Keychord.Proofs.Matcher.Dispatch
import Keychord.Proofs.Matcher.IdleOrPending
import Keychord.Proofs.Matcher.Refinement
import Keychord.Proofs.Notation.RoundTrip
import Keychord.Scenario.Commands
import Keychord.Scenario.Logging
import Keychord.Scenario.Messages
import Keychord.Scenario.Timers
import Keychord.Proofs.Notation.Grammar
import Keychord.Proofs.Matcher.Polling
import Keychord.Proofs.Matcher.Reload
import Keychord.Proofs.Key.Typing
import Keychord.Proofs.Matcher.Typing
import Keychord.Proofs.Matcher.FreshStart
import Keychord.Proofs.Matcher.FailedReload
import Keychord.Proofs.Matcher.OneTimer
import Keychord.Proofs.Matcher.Reporting
import Keychord.Proofs.Keymap.Confluence
import Keychord.Proofs.Matcher.Consumption
import Keychord.Proofs.Matcher.Cancellation
import Keychord.Proofs.Matcher.Dropped
import Keychord.Proofs.Matcher.Filtered
import Keychord.Proofs.Matcher.Unobserved
import Keychord.Proofs.Terminal.PendingLine
import Keychord.Proofs.Timer.Accounting
import Keychord.Proofs.Bus.Delivery
import Keychord.Proofs.Bus.Registration
import Keychord.Proofs.Registry.Execution
import Keychord.Proofs.Keymap.Substitution
import Keychord.Proofs.Key.Character
import Keychord.Proofs.Matcher.Display
import Keychord.Proofs.Matcher.Progress
import Keychord.Proofs.Application.Dispatches
import Keychord.Proofs.Telemetry.Bracketing
import Keychord.Proofs.Telemetry.Configuration
import Keychord.Proofs.Telemetry.Context
import Keychord.Proofs.Minutes
import Keychord.Proofs.Timer.Passes
import Keychord.Proofs.Terminal.TextEntry
import Keychord.Proofs.Record
import Keychord.Proofs.Registry.Changes
import Keychord.Proofs.Registry.Listing
import Keychord.Proofs.Config.Sound
import Keychord.Proofs.Config.Compiling
import Keychord.Proofs.Config.Environment
import Keychord.Proofs.Config.Extending
import Keychord.Proofs.CommandLine.Binding
import Keychord.Proofs.Terminal.JoinedKey
import Keychord.Proofs.Keymap.Counting
