import ControlPlane.Find
import ControlPlane.Wait

namespace ControlPlane

inductive Reference where
  | fresh
  | byId (id : String)
  | known (r : Resource)
  | untyped (r : Resource)
  deriving Repr

variable {σ : Type}

def Settled.toResource : Settled → Except Error Resource
  | (.ok (), r) => .ok r
  | (.error e, _) => .error e

def settled (x : Settled × Conversation σ) : Except Error Resource × Conversation σ :=
  (Settled.toResource x.1, x.2)

namespace Reference

def base (s : Schema) : Reference → Except Error Resource
  | .fresh => .ok (.new s .empty)
  | .byId id => .ok (.withId s id)
  | .known r => .ok r
  | .untyped r =>
      if r.kind = s.kind then .ok r
      else .error (.invalidValue ("expected a " ++ s.kind ++ " resource, got " ++ r.kind))

def resolve (s : Schema) (ref : Reference) (attrs : Dict Value) : Except Error Resource :=
  match ref with
  | .fresh => .ok (.new s attrs)
  | ref => do
      let r ← ref.base s
      Settled.toResource (r.update attrs)

def notFound (s : Schema) (id : Option String) : Error → Error
  | .notFound details =>
      .resourceNotFound ("No " ++ s.kind ++ " found for " ++ id.getD "<no id>") (some details)
  | e => e

def withResource {α : Type} (s : Schema) (ref : Reference) (attrs : Dict Value)
    (go : Resource → Conversation σ → Except Error α × Conversation σ) (c : Conversation σ) :
    Except Error α × Conversation σ :=
  match ref.resolve s attrs with
  | .error e => (.error e, c)
  | .ok r => go r c

def create (s : Session σ) (schema : Schema) (attrs : Dict Value) (c : Conversation σ) :
    Except Error Resource × Conversation σ :=
  (Resource.new schema attrs).perform s .create c

def get (s : Session σ) (schema : Schema) (ref : Reference) (c : Conversation σ) :
    Except Error Resource × Conversation σ :=
  ref.withResource schema .empty (fun r c =>
    let (result, c) := r.perform s .fetch c
    (result.mapError (notFound schema r.id?), c)) c

def head (s : Session σ) (schema : Schema) (ref : Reference) (c : Conversation σ) :
    Except Error Resource × Conversation σ :=
  ref.withResource schema .empty (fun r c => r.perform s .head c) c

def update (s : Session σ) (schema : Schema) (ref : Reference) (attrs : Dict Value)
    (c : Conversation σ) : Except Error Resource × Conversation σ :=
  ref.withResource schema attrs (fun r c => r.perform s .commit c) c

def deleted (schema : Schema) (r : Resource) (ignoreMissing : Bool) :
    Except Error Resource → Except Error (Option Resource)
  | .ok r => .ok (some r)
  | .error (.notFound details) =>
      if ignoreMissing then .ok none else .error (notFound schema r.id? (.notFound details))
  | .error e => .error (notFound schema r.id? e)

def delete (s : Session σ) (schema : Schema) (ref : Reference) (ignoreMissing : Bool)
    (c : Conversation σ) : Except Error (Option Resource) × Conversation σ :=
  ref.withResource schema .empty (fun r c =>
    let (result, c) := r.perform s .delete c
    (deleted schema r ignoreMissing result, c)) c

def act (s : Session σ) (schema : Schema) (ref : Reference) (method : Method) (suffix : String)
    (body : Option Value) (c : Conversation σ) : Except Error Unit × Conversation σ :=
  ref.withResource schema .empty (fun r c =>
    let (result, c) := r.action s method suffix body c
    (result.map fun _ => (), c)) c

def await (schema : Schema) (ref : Reference)
    (wait : Resource → Conversation σ → Settled × Conversation σ) (c : Conversation σ) :
    Except Error Resource × Conversation σ :=
  ref.withResource schema .empty (fun r c => settled (wait r c)) c

end Reference

end ControlPlane
