import RelayRoute.LogRecord
import RelayRoute.Transport

/-!
# The environment of a connection

A connection is made with transports, proxies and resolvers that somebody else provides.  An
`Environment` says how they behave: transports and proxies are values that an operation may replace,
and whatever else an operation touches is the world.  Dialing, asking a proxy and looking up a host
wait for others, and whoever waits may give up in between.

Everything that is said about tunnels is said for all environments.  One of them is that of a
rehearsal, in which transports and proxies follow scripts.
-/

namespace RelayRoute

/-- A proxy server: where it listens, and what else its protocol keeps.  A copy is independent, as a
proxy is a value: what happens to one does not happen to the other. -/
structure Proxy (π : Type) where
  address : Address
  state : π

/-- How transports, proxies and resolvers behave: each operation gives its answer, and what has
become of the transport, the proxy and the world. -/
structure Environment (ω τ π ρ : Type) where
  /-- The answer of a transport to a question. -/
  observe : (query : Query) → τ → ω → query.Reply
  /-- Does something with a transport. -/
  perform : (action : Action) → τ → ω → action.Reply × τ × ω
  /-- Closes a transport. -/
  close : τ → ω → Except IoFault Unit × τ × ω
  /-- A new transport to a proxy. -/
  create : Proxy π → ω → τ × ω
  /-- Dials a proxy over a transport. -/
  dial : Proxy π → τ → ω → Ending IoFault Unit × π × τ × ω
  /-- Tells a proxy that it is reached through another one. -/
  markReached : Proxy π → ω → π × ω
  /-- Asks a proxy to relay to a target. -/
  request : Proxy π → (target : Address) → τ → ω → Ending RelayFault Unit × π × τ × ω
  /-- All addresses of a host. -/
  lookup : ρ → (host : String) → ω → Ending IoFault (List Ip) × ω
  /-- The resolver of the system. -/
  systemResolver : ρ
  /-- Adds a record to the log. -/
  log : LogRecord → ω → ω

end RelayRoute
