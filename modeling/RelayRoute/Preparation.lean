import RelayRoute.Environment

/-!
# Preparation of transports

A transport gets its settings one after another, in the order of the options, and the first that
fails ends the preparation: it is the last that is tried.

* `makeEach`, `make` — settings are made on a transport;
* `setUp` — a new transport is told the limit of its dials first, if there is one, and then gets the
  settings.

Which settings are tried, and with which replies, is said by `Makes` for this way of making settings
and for that of `Tcp.prepareAll`.
-/

namespace RelayRoute.Environment

variable {ω τ π ρ : Type} (env : Environment ω τ π ρ)

/-- Makes settings one after another, up to the first that fails.  Those made before it stay made.
-/
def makeEach : List Setting → τ → ω → Except IoFault Unit × τ × ω
  | [], transport, world => (.ok (), transport, world)
  | setting :: settings, transport, world =>
    match env.perform (.set setting) transport world with
    | (.ok (), transport, world) => makeEach settings transport world
    | (.error fault, transport, world) => (.error fault, transport, world)

/-- Makes settings in the order of the options, up to the first that fails. -/
def make (settings : Settings) (transport : τ) (world : ω) : Except IoFault Unit × τ × ω :=
  env.makeEach settings.toList transport world

/-- Prepares a new transport: limits its dial if there is a limit, then makes the settings.  Without
a limit the transport is not told that there is none. -/
def setUp (timeout : Option Duration) (settings : Settings) (transport : τ) (world : ω) :
    Except IoFault Unit × τ × ω :=
  match timeout with
  | none => env.make settings transport world
  | some limit =>
    let ((), transport, world) := env.perform (.setTimeout (some limit)) transport world
    env.make settings transport world

end RelayRoute.Environment
