import ControlPlane.Reference

namespace ControlPlane.Messaging

def clientIdHeader : String := "Client-ID"

def projectIdHeader : String := "X-PROJECT-ID"

namespace Queue

def fields : List Field :=
  [ { name := "name", alternateId := true },
    .as (.renamed "default_message_ttl" "_default_message_ttl") .integer,
    .plain "description",
    .plain "href",
    .as (.renamed "max_messages_post_size" "_max_messages_post_size") .integer,
    { name := "client_id", wire := clientIdHeader, location := .header },
    { name := "project_id", wire := projectIdHeader, location := .header } ]

def schema : Schema :=
  { kind := "messaging.queue", service := "messaging", basePath := "/queues"
    resourcesKey := some "queues", allow := [.create, .fetch, .delete, .list]
    query := .ofNames ["detailed"], fields := FieldTable.merge FieldTable.base fields }

end Queue

def identity (clientId : String) (projectId : Option String) : Dict String :=
  let headers : Dict String := .ofList [(clientIdHeader, clientId)]
  match projectId with
  | some project => headers.insert projectIdHeader project
  | none => headers

def addHeaders (headers : Dict String) (q : Request) : Request :=
  { q with headers := headers.overlay q.headers }

def identified {σ : Type} (s : Session σ) (clientId : String) (projectId : Option String) :
    Session σ :=
  { s with dress := fun q => s.dress (addHeaders (identity clientId projectId) q) }

end ControlPlane.Messaging
