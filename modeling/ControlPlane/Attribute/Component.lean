import ControlPlane.Data.Value

namespace ControlPlane

abbrev KeySet := Dict Unit

structure Component where
  values : Dict Value := .empty
  dirty : KeySet := .empty
  deriving DecidableEq, Repr, Inhabited

namespace Component

def markAll (values : Dict Value) : KeySet := values.map fun _ _ => ()

def ofValues (values : Dict Value) (synchronized : Bool) : Component :=
  { values := values, dirty := if synchronized then .empty else markAll values }

def get? (c : Component) (key : String) : Option Value := c.values.get? key

def contains (c : Component) (key : String) : Bool := c.values.contains key

def set (c : Component) (key : String) (value : Value) : Component :=
  if (c.get? key).any (·.same value) then c
  else { values := c.values.insert key value, dirty := c.dirty.insert key () }

def remove (c : Component) (key : String) : Component :=
  if c.contains key then { values := c.values.erase key, dirty := c.dirty.insert key () } else c

def changes (c : Component) : Dict Value := c.dirty.map fun key _ => (c.get? key).getD .null

def removedKeys (c : Component) : List String := c.dirty.keys.filter fun key => !c.contains key

def isDirty (c : Component) : Bool := !c.dirty.isEmpty

def clean (c : Component) : Component := { c with dirty := .empty }

def merge (c : Component) (values : Dict Value) : Component :=
  { values := c.values.overlay values, dirty := .empty }

def same (c d : Component) : Bool :=
  Value.sameEntries c.values.entries d.values.entries && c.dirty == d.dirty

end Component

end ControlPlane
