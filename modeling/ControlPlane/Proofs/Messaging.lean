import ControlPlane.Proofs.Attribute.History
import ControlPlane.Proofs.Resource.Construction
import ControlPlane.Proofs.Resource.Update
import ControlPlane.Proofs.Session.Dress
import ControlPlane.Service.Messaging

namespace ControlPlane

namespace Messaging

inductive Call where
  | create (attrs : Dict Value)
  | get (ref : Reference)
  | delete (ref : Reference) (ignoreMissing : Bool)
  | queues (params : Dict Value)
  | next (listing : Nat)
  deriving Repr

abbrev Listings := List (Option Listing)

abbrev Outcome := Except Error (Option Resource)

def Listings.read (listings : Listings) (i : Nat) :
    Except Error (Option (Resource × Listing)) → Outcome × Listings
  | .ok (some (queue, rest)) => (.ok (some queue), listings.set i (some rest))
  | .ok none => (.ok none, listings.set i none)
  | .error e => (.error e, listings.set i none)

variable {σ : Type}

def Call.deal : Call → Listings → Dealing σ (Outcome × Listings)
  | .create attrs, listings, s, c =>
      let (result, c) := Reference.create s Queue.schema attrs c
      ((result.map some, listings), c)
  | .get ref, listings, s, c =>
      let (result, c) := ref.get s Queue.schema c
      ((result.map some, listings), c)
  | .delete ref ignoreMissing, listings, s, c =>
      let (result, c) := ref.delete s Queue.schema ignoreMissing c
      ((result, listings), c)
  | .queues params, listings, _, c =>
      match Listing.start Queue.schema params true with
      | .error e => ((.error e, listings), c)
      | .ok l => ((.ok none, listings ++ [some l]), c)
  | .next i, listings, s, c =>
      match listings[i]?.join with
      | none => ((.ok none, listings), c)
      | some l =>
          let (result, c) := l.pull s c
          (listings.read i result, c)

def run : List Call → Listings → Dealing σ (List Outcome × Listings)
  | [], listings, _, c => (([], listings), c)
  | k :: rest, listings, s, c =>
      let ((outcome, listings), c) := k.deal listings s c
      let ((outcomes, listings), c) := run rest listings s c
      ((outcome :: outcomes, listings), c)

def Call.own (f : Field) : Call → Option String
  | .create attrs =>
      ((attrs.get? f.name).or (attrs.get? f.wire)).map fun v => v.plainText?.getD ""
  | .get _ | .delete _ _ | .queues _ | .next _ => none

variable {s : Session σ} {clientId : String} {projectId : Option String} {k : Call} {q : Request}

end Messaging

end ControlPlane
