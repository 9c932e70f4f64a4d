import ControlPlane.Service.AutoScaling
import ControlPlane.Service.Baremetal.Allocation
import ControlPlane.Service.Baremetal.Node
import ControlPlane.Service.Baremetal.Port
import ControlPlane.Service.Compute
import ControlPlane.Service.Introspection
import ControlPlane.Service.LoadBalancer
import ControlPlane.Service.Messaging
import ControlPlane.Service.Volume

namespace ControlPlane

structure RegistryEntry where
  displayName : String
  schema : Schema
  deriving DecidableEq, Repr

namespace Registry

def entries : List RegistryEntry :=
  [ ⟨"Bare Metal Nodes", Baremetal.Node.schema⟩,
    ⟨"Bare Metal Ports", Baremetal.Port.schema⟩,
    ⟨"Bare Metal Allocations", Baremetal.Allocation.schema⟩,
    ⟨"Introspections", Introspection.schema⟩,
    ⟨"Volumes", Volume.schema⟩,
    ⟨"Load Balancers", LoadBalancer.schema⟩,
    ⟨"Scaling Configurations", AutoScaling.Configuration.schema⟩,
    ⟨"Scaling Groups", AutoScaling.Group.schema⟩,
    ⟨"Scaling Instances", AutoScaling.Instance.schema⟩,
    ⟨"Queues", Messaging.Queue.schema⟩,
    ⟨"Jobs", Compute.Job.schema⟩ ]

def table : Dict RegistryEntry := .ofList (entries.map fun e => (e.schema.kind, e))

def find? (kind : String) : Option RegistryEntry := table.get? kind

def kinds : List String := table.keys

end Registry

end ControlPlane
