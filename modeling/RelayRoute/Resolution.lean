import RelayRoute.Environment

/-!
# Resolution of hosts

A host that has no address, or cannot be looked up, is unresolvable.  Where IPv4 is preferred the
first IPv4 record is taken, also one in IPv6 form, and the first record of all if there is none.

* `Ip.preferV4` — the record that is taken of several;
* `Environment.records` — the records of a host, with a failure if there are none;
* `Environment.resolve`, `Environment.resolvePreferred` — one of them, without and with a preference
  for IPv4;
* `Environment.resolveIp` — an address is looked up by its text, like any other host.
-/

namespace RelayRoute

namespace Ip

/-- The record that is taken of a list that starts with `first` where IPv4 is preferred: the first
IPv4 one, also one in IPv6 form, and the first of all if there is none. -/
def preferV4 (first : Ip) (others : List Ip) : Ip :=
  (((first :: others).map canonical).find? isV4).getD first.canonical

end Ip

namespace Environment

variable {ω τ π ρ : Type} (env : Environment ω τ π ρ)

/-- The records of a host, the first and the others.  An empty answer is as good as none; a lookup
that failed leaves its reason in the log, and the failure names the host alone. -/
def records (resolver : ρ) (host : String) (world : ω) : Ending Failure (Ip × List Ip) × ω :=
  match env.lookup resolver host world with
  | (.done (first :: others), world) => (.done (first, others), world)
  | (.done [], world) => (.failed (.hostUnresolvable host), world)
  | (.failed fault, world) =>
    (.failed (.hostUnresolvable host), env.log (.lookupFailed host fault) world)
  | (.abandoned, world) => (.abandoned, world)

/-- The first record of a host, in whatever form it is given. -/
def resolve (resolver : ρ) (host : String) (world : ω) : Ending Failure Ip × ω :=
  let (ending, world) := env.records resolver host world
  (ending.map fun (first, _) => first, world)

/-- The record of a host that is taken where IPv4 is preferred.  The host is looked up once,
whatever comes of it. -/
def resolvePreferred (resolver : ρ) (host : String) (world : ω) : Ending Failure Ip × ω :=
  let (ending, world) := env.records resolver host world
  (ending.map fun (first, others) => first.preferV4 others, world)

/-- The address that an address leads to where IPv4 is preferred.  It is looked up by its text like
any other host, so the resolver has a say in it. -/
def resolveIp (resolver : ρ) (ip : Ip) (world : ω) : Ending Failure Ip × ω :=
  env.resolvePreferred resolver ip.text world

end Environment

end RelayRoute
