import ResourcePool.Text.Basic

/-!
The kinds of pool. A kind has a name, which requests use, and a noun for one resource of the kind,
which messages use.
-/

namespace ResourcePool

/-- The two families of network addresses. -/
inductive Family where
  | v4
  | v6
deriving DecidableEq

/-- The width of an address in bits. -/
def Family.bits : Family → Nat
  | .v4 => 32
  | .v6 => 128

/-- The number of addresses of a family. -/
def Family.space (f : Family) : Nat := Nat.pow 2 f.bits

/-- The kinds of resource a pool can hold. -/
inductive Kind where
  | address (family : Family)
  | network (family : Family)
  | vlan
  | vlanRange
  | uniqueId
  | randomInt32
  | routeDistinguisher
deriving DecidableEq

namespace Kind

/-- Every kind, in the order in which they are listed to a user. -/
def all : List Kind :=
  [.address .v4, .network .v4, .address .v6, .network .v6, .vlan, .vlanRange, .uniqueId,
    .randomInt32, .routeDistinguisher]

def name : Kind → String
  | .address .v4 => "ipv4"
  | .address .v6 => "ipv6"
  | .network .v4 => "ipv4_prefix"
  | .network .v6 => "ipv6_prefix"
  | .vlan => "vlan"
  | .vlanRange => "vlan_range"
  | .uniqueId => "unique_id"
  | .randomInt32 => "random_signed_int32"
  | .routeDistinguisher => "route_distinguisher"

def noun : Kind → String
  | .address .v4 => "Ipv4 address"
  | .address .v6 => "Ipv6 address"
  | .network .v4 => "Ipv4 prefix"
  | .network .v6 => "Ipv6 prefix"
  | .vlan => "VLAN"
  | .vlanRange => "VLAN range"
  | .uniqueId => "Unique-id"
  | .randomInt32 => "random s_int32"
  | .routeDistinguisher => "route distinguisher"

/-- The kind a text names: white space around it and the case of ASCII letters do not matter, and a
hyphen stands for an underscore. -/
def read? (text : String) : Option Kind :=
  let wanted := (Text.trim text.toList).map fun c => if c = '-' then '_' else c.toLower
  all.find? fun kind => kind.name.toList == wanted

end Kind

end ResourcePool
