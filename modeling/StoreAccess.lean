import StoreAccess.Capability
import StoreAccess.Error
import StoreAccess.Gate
import StoreAccess.Grant
import StoreAccess.Json.Basic
import StoreAccess.Json.Domain
import StoreAccess.Json.Form
import StoreAccess.Json.Pretty
import StoreAccess.Label
import StoreAccess.Main
import StoreAccess.Membership
import StoreAccess.Policy
import StoreAccess.Principal
import StoreAccess.Proofs.Gate
import StoreAccess.Proofs.Inspection
import StoreAccess.Proofs.Resolution
import StoreAccess.Proofs.Steps
import StoreAccess.Proofs.Store.Calls
import StoreAccess.Proofs.Store.Edits
import StoreAccess.Proofs.Store.Events
import StoreAccess.Proofs.Store.Failures
import StoreAccess.Proofs.Store.Integrity
import StoreAccess.Proofs.Store.Isolation
import StoreAccess.Proofs.Store.Journal
import StoreAccess.Proofs.Store.Serial
import StoreAccess.Proofs.Store.Slot
import StoreAccess.Proofs.Store.Writing
import StoreAccess.Report.Access
import StoreAccess.Report.Settings
import StoreAccess.Request
import StoreAccess.Resolution
import StoreAccess.Role
import StoreAccess.Scope
import StoreAccess.Sorted.Map
import StoreAccess.Sorted.Set
import StoreAccess.Store.Basic
import StoreAccess.Store.Connection
import StoreAccess.Store.Contents
import StoreAccess.StoreId
import StoreAccess.Text.Blank
import StoreAccess.Text.CodeRange
import StoreAccess.Text.Escape
import StoreAccess.Text.Extending
import StoreAccess.Text.Ignorable
import StoreAccess.Text.Split
import StoreAccess.Text.Unprintable
import StoreAccess.View
import StoreAccess.Proofs.Store.Effects
import StoreAccess.Proofs.Store.Resolving
import StoreAccess.Proofs.Store.Grants
import StoreAccess.Proofs.Store.Members
import StoreAccess.Proofs.Store.Discards
import StoreAccess.Proofs.Store.Confinement
import StoreAccess.Proofs.Store.Schema
import StoreAccess.Proofs.Store.Commuting
import StoreAccess.Proofs.StoredForm
import StoreAccess.Proofs.Store.References
import StoreAccess.Proofs.Text.Listed
import StoreAccess.Proofs.Report.Grammar
import StoreAccess.Proofs.Report.SetUp
import StoreAccess.Proofs.Report.Outcome
import StoreAccess.Proofs.Granting
import StoreAccess.Proofs.Revisions
import StoreAccess.Proofs.Administration
import StoreAccess.Proofs.Store.Bookkeeping
import StoreAccess.Proofs.Decoding
