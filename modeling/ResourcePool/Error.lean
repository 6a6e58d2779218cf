import ResourcePool.Kind

/-!
What can go wrong when a pool is read or a resource is asked for. Each cause is a constructor with
the values its message needs; `Error.message` is the only place with the wording.
-/

namespace ResourcePool

/-- Where a property was looked up. -/
inductive Scope where
  | pool
  | resource
  | input
deriving DecidableEq

def Scope.text : Scope → String
  | .pool => "pool properties"
  | .resource => "allocated resource"
  | .input => "user input"

/-- Why the parts of a route distinguisher do not make one that can be granted. -/
inductive Rejection where
  | number (label : String) (value : Int)
  | address (text : String)
  | bothAdministrators (asNumber : Int) (ipv4 : String)
  | bothWide (asNumber assigned : Int)
  | wideAssigned (assigned : Int)
  | incomplete (input : String)
  | duplicate (text : String)
deriving DecidableEq

def Rejection.message : Rejection → String
  | .number label value => s!"Unable to allocate RD for {label}: {value}. Number is invalid"
  | .address text => s!"Unable to allocate RD, invalid IPv4: {text} provided"
  | .bothAdministrators asNumber ipv4 =>
    s!"Unable to allocate RD, both AS: {asNumber} number and IPv4: {ipv4} provided"
  | .bothWide asNumber assigned =>
    s!"Unable to allocate RD, 4 byte AS: {asNumber} and 4 byte assigned number: {assigned} provided"
  | .wideAssigned assigned =>
    s!"Unable to allocate RD, 4 byte assigned number: {assigned} provided with an IP address"
  | .incomplete input =>
    s!"Unable to allocate RD, check the input parameters. User provided input: {input}"
  | .duplicate text => s!"Unable to allocate RD, duplicate RD created: {text}"

/-- The causes of failure. -/
inductive Error where
  | missing (key : String) (scope : Scope)
  | notText (key : String) (scope : Scope) (value : String)
  | notNumber (value : String)
  | unknownKind (name : String)
  | ipv4Shape (address : String)
  | ipv4Octet (address : String)
  | ipv6Shape (address : String)
  | maskRange (mask : Int) (family : Family)
  | networkShape (text : String)
  | sizeTooSmall (kind : Kind) (pool : String) (size least : Int)
  | noRoomForHosts (mask : Nat)
  | notVlan (value : String)
  | vlanTooWide (value : Int)
  | int32Range (first last : Int)
  | rejected (why : Rejection)
  | noCounter
  | outside (kind : Kind) (value range : String)
  | taken (kind : Kind) (value : String)
  | misaligned (expected : String)
  | overlap (kind : Kind) (value existing : String)
  | exhausted (kind : Kind) (pool request allocated : String)
deriving DecidableEq

namespace Error

/-- The shape an IPv4 address must have. -/
def ipv4Pattern : String :=
  "^([0-9]\x7b1,3\x7d)\\.([0-9]\x7b1,3\x7d)\\.([0-9]\x7b1,3\x7d)\\.([0-9]\x7b1,3\x7d)$"

def message : Error → String
  | .missing key scope => s!"Missing {key} in {scope.text}"
  | .notText key scope value => s!"Property {key} in {scope.text} must be a string, got: {value}"
  | .notNumber value => s!"Unable to convert {value} to a known number type"
  | .unknownKind name => s!"Unknown allocation strategy: {name}"
  | .ipv4Shape address => s!"Address: {address} is invalid, doesn't match regex: {ipv4Pattern}"
  | .ipv4Octet address => s!"Address: {address} is invalid, outside of ipv4 range: {address}"
  | .ipv6Shape address => s!"Address: {address} is invalid ipv6 address."
  | .maskRange mask family =>
    s!"Prefix: {mask} is invalid, mask must be between 0 and {family.bits}"
  | .networkShape text => s!"Prefix: {text} is invalid, invalid IP address syntax"
  | .sizeTooSmall kind pool size least =>
    s!"Unable to allocate {kind.noun} from: {pool}. Desired size is invalid: {size}. Use values >= {least}"
  | .noRoomForHosts mask =>
    s!"It is not possible to allocate resource with prefix {mask}, together with subnet set as true"
  | .notVlan value => s!"VLAN must be a number. Received: {value}."
  | .vlanTooWide value => s!"VLAN range bound {value} does not fit in 64 bits"
  | .int32Range first last => s!"Invalid s_int32 range [{first}-{last}]"
  | .rejected why => why.message
  | .noCounter => "Missing \x7bcounter\x7d in idFormat"
  | .outside kind value range => s!"{kind.noun} {value} is out of {range}"
  | .taken kind value => s!"{kind.noun} {value} was already claimed."
  | .misaligned expected =>
    s!"You provided invalid network address. Network address should be {expected}"
  | .overlap kind value existing =>
    s!"{kind.noun} {value} overlaps with already allocated {existing}"
  | .exhausted kind pool request allocated =>
    s!"Unable to allocate {kind.noun} from: {pool}. Insufficient capacity to allocate {request}. Currently allocated: {allocated}"

/-- Whether the pool has run out of room. -/
def isExhausted : Error → Bool
  | .exhausted .. => true
  | _ => false

/-- Whether a wanted resource is in conflict with the pool or with what it has granted. -/
def isConflict : Error → Bool
  | .outside .. | .taken .. | .misaligned .. | .overlap .. => true
  | _ => false

end Error

/-- The kind a text names, or the error that there is none. -/
def Kind.read (text : String) : Except Error Kind :=
  match Kind.read? text with
  | some kind => .ok kind
  | none => .error (.unknownKind text)

end ResourcePool
