import ControlPlane.Reference

namespace ControlPlane.AutoScaling

def serviceType : String := "auto-scaling"

namespace Configuration

def fields : List Field :=
  [ .renamed "id" "scaling_configuration_id",
    .renamed "name" "scaling_configuration_name",
    .timestamp "created_at" "create_time",
    .as (.plain "instance_config") .dict,
    .plain "scaling_group_id" ]

def schema : Schema :=
  { kind := "auto-scaling.configuration", service := serviceType
    basePath := "/scaling_configuration", resourceKey := some "scaling_configuration"
    resourcesKey := some "scaling_configurations", allow := [.create, .fetch, .delete, .list]
    query := (QueryMapping.ofNames ["image_id"]).rename "name" "scaling_configuration_name"
    fields := FieldTable.merge FieldTable.base fields }

end Configuration

namespace Group

def fields : List Field :=
  [ .renamed "id" "scaling_group_id",
    .renamed "name" "scaling_group_name",
    .as (.plain "cool_down_time") .integer,
    .timestamp "created_at" "create_time",
    .as (.plain "current_instance_number") .integer,
    .as (.plain "desire_instance_number") .integer,
    .plain "detail",
    .as (.plain "max_instance_number") .integer,
    .as (.plain "min_instance_number") .integer,
    .as (.plain "networks") .list,
    .plain "scaling_configuration_id",
    .as (.plain "security_groups") .list,
    .renamed "status" "scaling_group_status",
    .plain "vpc_id" ]

def schema : Schema :=
  { kind := "auto-scaling.group", service := serviceType, basePath := "/scaling_group"
    resourceKey := some "scaling_group", resourcesKey := some "scaling_groups"
    query := ((QueryMapping.ofNames ["scaling_configuration_id"]).rename
      "name" "scaling_group_name").rename "status" "scaling_group_status"
    fields := FieldTable.merge FieldTable.base fields }

variable {σ : Type}

def act (s : Session σ) (ref : Reference) (action : String) (c : Conversation σ) :
    Except Error Unit × Conversation σ :=
  ref.act s schema .post "action" (some (.record [("action", .text action)])) c

def resume (s : Session σ) (ref : Reference) (c : Conversation σ) :
    Except Error Unit × Conversation σ :=
  act s ref "resume" c

def pause (s : Session σ) (ref : Reference) (c : Conversation σ) :
    Except Error Unit × Conversation σ :=
  act s ref "pause" c

end Group

namespace Instance

def fields : List Field :=
  [ .renamed "id" "instance_id",
    .renamed "name" "instance_name",
    .timestamp "created_at" "create_time",
    .plain "health_status",
    .renamed "lifecycle_state" "life_cycle_state",
    .as (.renamed "is_protected" "protect_from_scaling_down") .boolean,
    .plain "scaling_configuration_id",
    .plain "scaling_configuration_name",
    { name := "scaling_group_id", location := .uri } ]

def schema : Schema :=
  { kind := "auto-scaling.instance", service := serviceType
    basePath := "/scaling_group_instance/\x7bscaling_group_id\x7d/list"
    resourcesKey := some "scaling_group_instances", allow := [.list]
    query := (QueryMapping.ofNames ["health_status"]).rename "lifecycle_state" "life_cycle_state"
    fields := FieldTable.merge FieldTable.base fields }

def lifecycleState? (r : Resource) : Option String := r.getText? "lifecycle_state"

def inGroup (group : String) (params : Dict Value) : Dict Value :=
  params.insert "scaling_group_id" (.text group)

end Instance

end ControlPlane.AutoScaling
