import AwsCredentials.Strategy

/-!
# Descriptors

A descriptor is a strategy together with all the values that it needs. It is what a valid
configuration resolves to and what a session is built from. The descriptor of an assumed role holds
the descriptor of the base whose credentials the role is assumed with; sessions can be built from
descriptors nested to any depth, while a configuration resolves to one level at most.
-/

namespace AwsCredentials

/-- A proxy, used for requests to the token service only: what a caller does with the session later
does not pass through it. -/
structure Proxy where
  /-- The host. -/
  host : String
  /-- The port. -/
  port : Int
deriving DecidableEq

/-- How long a role is assumed for when nothing is said, in seconds. It is in range, being the
greatest time itself. -/
def defaultMaxSeconds : Int := 3600

/-- The least time that a role can be assumed for, in seconds. A shorter one is out of range. -/
def leastMaxSeconds : Int := 900

/-- The greatest time that a role can be assumed for, in seconds. A longer one is out of range. -/
def greatestMaxSeconds : Int := 3600

/-- The greatest port of a proxy; the least one is 1. -/
def greatestPort : Int := 65535

/-- The region of the token service when nothing is said. It is a region of the service only, never
one of the session that is built. -/
def defaultRegion : String := "us-west-2"

/-- What a request for a role says, however its sender is known: what the two strategies that assume
a role have in common. -/
structure RoleRequest where
  /-- The role. -/
  arn : String
  /-- The name of the session. -/
  sessionName : String
  /-- How long the role is assumed for, in seconds. -/
  maxSeconds : Int := defaultMaxSeconds
  /-- The endpoint of the token service. -/
  endpoint : Option String := none
  /-- The region of the token service. -/
  region : String := defaultRegion
  /-- The proxy to the token service. -/
  proxy : Option Proxy := none
deriving DecidableEq

/-- A strategy with the values that it needs. A descriptor of a role with a base holds the
descriptor of the base, so descriptors are trees without branches. -/
inductive Descriptor
  /-- The credentials that the surroundings offer. -/
  | default
  /-- No credentials. -/
  | anonymous
  /-- A key pair. -/
  | staticKeyPair (accessKey secretKey : String)
  /-- The key pair in the file at a path. -/
  | credentialsFile (path : String)
  /-- The credentials of a profile. -/
  | namedProfile (profile : String)
  /-- A role, assumed with the credentials of another descriptor. -/
  | assumeRole (role : RoleRequest) (externalId : Option String) (base : Descriptor)
  /-- A role, assumed with the web identity token in the file at a path. -/
  | webIdentity (role : RoleRequest) (tokenFile : String)
deriving DecidableEq, Inhabited

namespace Descriptor

/-- The strategy of a descriptor, which forgets the values. Notices say this much of a descriptor
and no more. -/
def strategy : Descriptor → Strategy
  | default => .default
  | anonymous => .anonymous
  | staticKeyPair _ _ => .staticKeyPair
  | credentialsFile _ => .credentialsFile
  | namedProfile _ => .namedProfile
  | assumeRole _ _ _ => .assumeRole
  | webIdentity _ _ => .webIdentity

end Descriptor

end AwsCredentials
