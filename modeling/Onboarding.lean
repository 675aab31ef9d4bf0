import Onboarding.Main
import Onboarding.Proofs.Document.Completeness
import Onboarding.Proofs.Document.Kernel
import Onboarding.Proofs.Document.Uniqueness
import Onboarding.Proofs.Edit.Assigning
import Onboarding.Proofs.Program.Acceptance
import Onboarding.Proofs.Program.Generation
import Onboarding.Proofs.Program.Lookup
import Onboarding.Proofs.Program.Walk
import Onboarding.Proofs.Program.WellFormed
import Onboarding.Proofs.Session.Atomicity
import Onboarding.Proofs.Session.Completion
import Onboarding.Proofs.Session.Generation
import Onboarding.Proofs.Session.Reply
import Onboarding.Proofs.Session.Freshness
import Onboarding.Proofs.Session.Overriding
import Onboarding.Proofs.Json.Rearrangement
import Onboarding.Proofs.Answers.Stability
import Onboarding.Proofs.Document.Wire
import Onboarding.Proofs.Verdict
import Onboarding.Proofs.Edit.Spelling
import Onboarding.Proofs.Text.ReadBack
import Onboarding.Proofs.Document.Jobs
import Onboarding.Proofs.Document.Shape
import Onboarding.Proofs.Edit.Position
import Onboarding.Proofs.Answers.Lookup
import Onboarding.Proofs.Document.Locality
import Onboarding.Proofs.Edit.Undoing
import Onboarding.Proofs.Session.Showing
import Onboarding.Proofs.Text.LetterCase
import Onboarding.Proofs.Answers.Variants
import Onboarding.Proofs.Client.Requests
import Onboarding.Proofs.Client.Lookups
import Onboarding.Proofs.Text.ByteOrder
import Onboarding.Proofs.Document.Images
