import ControlPlane.Resource

namespace ControlPlane.Baremetal

def serviceType : String := "baremetal"

def schemaFor (kind basePath resourcesKey : String) (query : QueryMapping) (fields : List Field) :
    Schema :=
  { kind := kind, service := serviceType, basePath := basePath, resourcesKey := some resourcesKey
    updateStyle := .patchJson, microversion := some "1.52", retriable := [409, 503], query := query
    fields := FieldTable.merge FieldTable.base fields }

def idField : Field := { name := "id", wire := "uuid", alternateId := true }

namespace Port

def query : QueryMapping :=
  ((QueryMapping.ofNames ["address", "node", "portgroup", "fields"]).rename
    "node_id" "node_uuid").rename "port_group_id" "portgroup_uuid"

def fields : List Field :=
  [ idField,
    .plain "address",
    .timestamp "created_at" "created_at",
    .as (.plain "extra") .dict,
    .as (.plain "internal_info") .dict,
    .as (.renamed "is_pxe_enabled" "pxe_enabled") .boolean,
    .as (.plain "local_link_connection") .dict,
    .renamed "node_id" "node_uuid",
    .plain "physical_network",
    .renamed "port_group_id" "portgroup_uuid",
    .timestamp "updated_at" "updated_at" ]

def schema : Schema := schemaFor "baremetal.port" "/ports" "ports" query fields

def address? (r : Resource) : Option String := r.getText? "address"

def nodeId? (r : Resource) : Option String := r.getText? "node_id"

end Port

end ControlPlane.Baremetal
