import DraftSchema.Files.Tree
import DraftSchema.Main
import DraftSchema.Proofs.Language.Acceptance
import DraftSchema.Proofs.Session.Adequacy
import DraftSchema.Proofs.Session.Agreement
import DraftSchema.Proofs.Session.Circles
import DraftSchema.Proofs.Session.Extraction
import DraftSchema.Proofs.Session.Fetches
import DraftSchema.Proofs.Session.Places
import DraftSchema.Proofs.Session.Termination
import DraftSchema.Proofs.Compilation.Termination
import DraftSchema.Proofs.Json.Reordering
import DraftSchema.Proofs.Node.Built
import DraftSchema.Proofs.Validation.Reordering
import DraftSchema.Proofs.Session.Reordering
import DraftSchema.Proofs.Json.RoundTrip
import DraftSchema.Proofs.Report.Lines
import DraftSchema.Proofs.Program.Status
import DraftSchema.Proofs.Session.Alternatives
import DraftSchema.Proofs.Compilation.Loops
import DraftSchema.Proofs.Session.Ranges
import DraftSchema.Proofs.Session.Failures
import DraftSchema.Proofs.SimpleSchema.Building
import DraftSchema.Proofs.Calendar.Formats
import DraftSchema.Proofs.Regex.Anchoring
import DraftSchema.Proofs.Compilation.Edits
import DraftSchema.Proofs.Report.Outcomes
import DraftSchema.Proofs.SimpleSchema.Enumeration
import DraftSchema.Proofs.Config.Precedence
import DraftSchema.Proofs.Lookup.Containment
import DraftSchema.Proofs.Session.Fragments
