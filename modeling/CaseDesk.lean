import CaseDesk.Gateway
import CaseDesk.Registry.Route
import CaseDesk.Service.Catalogue
import CaseDesk.Settings
import CaseDesk.Proofs.Rows
import CaseDesk.Proofs.Steps
import CaseDesk.Proofs.Desks
import CaseDesk.Proofs.Calls
import CaseDesk.Proofs.Runs
import CaseDesk.Proofs.Versions
import CaseDesk.Proofs.Initial
import CaseDesk.Proofs.Holdings
import CaseDesk.Proofs.Unchanged
import CaseDesk.Proofs.Shelves
import CaseDesk.Proofs.Refusals
import CaseDesk.Proofs.Authors
import CaseDesk.Proofs.Grants
import CaseDesk.Proofs.Fairness
import CaseDesk.Proofs.Admission
import CaseDesk.Proofs.Parents
import CaseDesk.Proofs.Frame
import CaseDesk.Proofs.Limits
import CaseDesk.Proofs.Order
import CaseDesk.Proofs.Pages
import CaseDesk.Proofs.Services
import CaseDesk.Proofs.Answers
import CaseDesk.Proofs.Tags
import CaseDesk.Proofs.Listed
import CaseDesk.Proofs.Within
import CaseDesk.Proofs.Isolation
import CaseDesk.Proofs.Checks
import CaseDesk.Proofs.Lasting
import CaseDesk.Proofs.Tidy
import CaseDesk.Proofs.Masks
import CaseDesk.Proofs.SavedBack
import CaseDesk.Proofs.Validity
import CaseDesk.Proofs.Accepted
import CaseDesk.Proofs.Misplaced
import CaseDesk.Proofs.Stamps
import CaseDesk.Proofs.Commuting
import CaseDesk.Proofs.Searches
import CaseDesk.Proofs.TagTexts
import CaseDesk.Proofs.Templates
import CaseDesk.Proofs.Routes
import CaseDesk.Proofs.Readings
import CaseDesk.Proofs.Forms
import CaseDesk.Proofs.Schemas
import CaseDesk.Proofs.Messages
import CaseDesk.Proofs.GrantTexts
import CaseDesk.Proofs.Captures
import CaseDesk.Proofs.Choice
import CaseDesk.Proofs.FreshTags
import CaseDesk.Proofs.Conditions
import CaseDesk.Proofs.Histories
import CaseDesk.Proofs.Identity
import CaseDesk.Proofs.Merging
import CaseDesk.Proofs.Addressing
import CaseDesk.Proofs.Projections
import CaseDesk.Proofs.KeyTables
import CaseDesk.Proofs.Documents
import CaseDesk.Proofs.Layers
