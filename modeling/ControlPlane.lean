import ControlPlane.Main
import ControlPlane.Proofs.Listing.Protocol
import ControlPlane.Proofs.Listing.MarkerServer
import ControlPlane.Proofs.Resource.PatchCommit
import ControlPlane.Proofs.Attribute.History
import ControlPlane.Proofs.Resource.Synchronization
import ControlPlane.Proofs.Resource.ItemUrl
import ControlPlane.Proofs.Resource.ReadBack
import ControlPlane.Proofs.Wait.Budget
import ControlPlane.Proofs.Wait.Sorting
import ControlPlane.Proofs.Find
import ControlPlane.Proofs.Listing.Laziness
import ControlPlane.Proofs.Http.Retry
import ControlPlane.Proofs.Listing.Parameters
import ControlPlane.Proofs.Reference
import ControlPlane.Proofs.Wait.Attribute
import ControlPlane.Proofs.Wait.Ending
import ControlPlane.Proofs.Wait.Singleton
import ControlPlane.Proofs.Baremetal.Provision
import ControlPlane.Proofs.Attribute.Template
import ControlPlane.Proofs.Data.Gathered
import ControlPlane.Proofs.Listing.Preconditions
import ControlPlane.Proofs.Resource.WireForm
import ControlPlane.Proofs.Time.Calendar
import ControlPlane.Proofs.Time.Digits
import ControlPlane.Proofs.Time.Instant
import ControlPlane.Proofs.Time.Reading
import ControlPlane.Proofs.Time.Acceptance
import ControlPlane.Proofs.Time.Printing
import ControlPlane.Proofs.Time.Canonical
import ControlPlane.Proofs.Resource.Construction
import ControlPlane.Proofs.Find.Checks
import ControlPlane.Proofs.Reference.Repetition
import ControlPlane.Proofs.Json.Scalar
import ControlPlane.Proofs.Command.Line
import ControlPlane.Proofs.Registry
import ControlPlane.Proofs.Listing.Asking
import ControlPlane.Proofs.Command.Filter
import ControlPlane.Proofs.Command.Project
import ControlPlane.Proofs.Http.Header
import ControlPlane.Proofs.Resource.Reply
import ControlPlane.Proofs.Reference.Refusal
import ControlPlane.Proofs.Attribute.Reading
import ControlPlane.Proofs.Resource.Record
import ControlPlane.Proofs.Resource.ClientView
import ControlPlane.Proofs.Attribute.Textual
import ControlPlane.Proofs.Resource.HeaderEcho
import ControlPlane.Proofs.Session.Dress
import ControlPlane.Proofs.Messaging
import ControlPlane.Proofs.Text.Printable
import ControlPlane.Proofs.Wait.Schedule
import ControlPlane.Proofs.Attribute.Declaration
import ControlPlane.Proofs.Attribute.Integer
