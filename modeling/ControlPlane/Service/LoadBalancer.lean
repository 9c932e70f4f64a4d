import ControlPlane.Reference

namespace ControlPlane.LoadBalancer

def query : QueryMapping :=
  (QueryMapping.ofNames ["name", "description", "flavor_id", "operating_status", "project_id",
    "provider", "provisioning_status", "vip_address", "vip_network_id", "vip_subnet_id"]).rename
    "is_admin_state_up" "admin_state_up"

def fields : List Field :=
  [ .timestamp "created_at" "created_at",
    .plain "description",
    .plain "flavor_id",
    .as (.renamed "is_admin_state_up" "admin_state_up") .boolean,
    .as (.plain "listeners") .list,
    .plain "operating_status",
    .as (.plain "pools") .list,
    .plain "project_id",
    .plain "provider",
    .plain "provisioning_status",
    .timestamp "updated_at" "updated_at",
    .plain "vip_address",
    .plain "vip_network_id",
    .plain "vip_port_id",
    .plain "vip_subnet_id" ]

def schema : Schema :=
  { kind := "load-balancer.load_balancer", service := "load-balancer"
    basePath := "/lbaas/loadbalancers", resourceKey := some "loadbalancer"
    resourcesKey := some "loadbalancers", query := query
    fields := FieldTable.merge FieldTable.base fields }

variable {σ : Type}

def failover (s : Session σ) (ref : Reference) (c : Conversation σ) :
    Except Error Unit × Conversation σ :=
  ref.act s schema .put "failover" none c

def target (status : String) (failures : List String) : Wait.Target :=
  { name := "provisioning_status", status := status, failures := failures }

end ControlPlane.LoadBalancer
