import RelayRoute.Tunnel

/-!
# The parts of an attempt

An attempt to connect finds the address it is for (`Tunnel.aim`), makes the tunnel ready, and walks
the route.  The four public ways to connect are one operation with different goals
(`Tunnel.pursue`).

The second step and the whole have many ways to end, and each leaves another tunnel behind.  They
are listed here once and for all, with the guards under which they are taken and the tunnel and the
world they lead to.  What is said elsewhere about an attempt follows from the lists, and opens
neither `ready` nor `attempt` again:

* `pursue_eq` — an attempt finds an address first, and goes no further without one;
* `readied` — making a tunnel ready is refused, keeps the transport that is held, fails to close it,
  or replaces it, and `Readied` says when and with what result;
* `attempted` — an attempt at an address cannot make the tunnel ready, is connected, or is stranded
  on its way (`Attempted`);
* `ready_changes`, `ready_frame` — what is left of the tunnel in either case.
-/

namespace RelayRoute

/-- The phase of a tunnel that has given its connection up: one that was connected counts as never
bound, and any other stays in its phase. -/
def Phase.left : Phase → Phase
  | .connected => .unbound
  | phase => phase

/-- A connection that was given up is no connection. -/
theorem Phase.left_ne_connected (phase : Phase) : phase.left ≠ .connected := by
  cases phase <;> decide

/-- Without a connection there is none to give up. -/
theorem Phase.left_of_ne_connected {phase : Phase} (h : phase ≠ .connected) :
    phase.left = phase := by
  cases phase with
  | connected => exact absurd rfl h
  | _ => rfl

namespace Tunnel

variable {ω τ π ρ : Type} (env : Environment ω τ π ρ) (tunnel : Tunnel τ π ρ)

/-! ## Goals -/

/-- What an attempt to connect is told: a host as text with a port, or an endpoint with the limit
for its dial, where `none` means that the dial is not limited. -/
inductive Goal
  | host (text : String) (port : UInt16)
  | endpoint (endpoint : Endpoint) (limit : Option Duration)

/-- The limit for the dial, if one is told; it may be to have none. -/
def Goal.limit? : Goal → Option (Option Duration)
  | .host _ _ => none
  | .endpoint _ limit => some limit

/-- Connects to what is told.  This is the one operation that the ways to connect amount to, and the
one about which attempts are stated. -/
def pursue (goal : Goal) (world : ω) : Ending Failure Unit × Tunnel τ π ρ × ω :=
  match goal with
  | .host text port => connect env tunnel text port world
  | .endpoint endpoint limit => connectEndpoint env tunnel endpoint limit world

/-- What an address whose host has the given text is replaced by.  Where IPv4 is preferred the host
is looked up, and the record that is preferred takes its place; otherwise the address stays, and
nobody is asked. -/
def normalize (text : String) (address : Address) (world : ω) : Ending Failure Address × ω :=
  if tunnel.prefersIpv4 then
    let (ending, world) := env.resolvePreferred tunnel.resolver text world
    (ending.map fun ip => ⟨Host.ofIp ip, address.port⟩, world)
  else (.done address, world)

/-- Finds the address of a port at a host given as text. -/
def aimAtHost (text : String) (port : UInt16) (world : ω) : Ending Failure Address × ω :=
  match Host.ofText text with
  | .error cause => (.failed (.invalidAddress cause), world)
  | .ok host => normalize env tunnel host.text ⟨host, port⟩ world

/-- Finds the address of an endpoint. -/
def aimAtEndpoint (endpoint : Endpoint) (world : ω) : Ending Failure Address × ω :=
  match endpoint with
  | .localPath _ => (.failed .unsupportedAddress, world)
  | .inet address => normalize env tunnel address.ip.text (Address.ofSocketAddress address) world

/-- Finds the address that an attempt is for. -/
def aim (goal : Goal) (world : ω) : Ending Failure Address × ω :=
  match goal with
  | .host text port => aimAtHost env tunnel text port world
  | .endpoint endpoint _ => aimAtEndpoint env tunnel endpoint world

/-- An attempt first finds its address, and leaves the tunnel alone if there is none.  So whatever
an attempt does with a tunnel is done by `attempt`, in the world that finding the address has led
to. -/
theorem pursue_eq (goal : Goal) (world : ω) :
    pursue env tunnel goal world =
      match aim env tunnel goal world with
      | (.done target, world) => attempt env tunnel target goal.limit? world
      | (.failed failure, world) => (.failed failure, tunnel, world)
      | (.abandoned, world) => (.abandoned, tunnel, world) := by
  cases goal with
  | host text port =>
      unfold pursue connect aim aimAtHost normalize Goal.limit?
      dsimp only
      generalize Host.ofText text = parsed
      cases parsed with
      | error cause => rfl
      | ok host =>
          cases tunnel.prefersIpv4 with
          | true =>
              simp only [if_true]
              rcases env.resolvePreferred tunnel.resolver host.text world with ⟨ending, sought⟩
              cases ending <;> rfl
          | false => rfl
  | endpoint endpoint limit =>
      unfold pursue connectEndpoint aim aimAtEndpoint normalize Goal.limit?
      cases endpoint with
      | localPath path => rfl
      | inet address =>
          cases tunnel.prefersIpv4 with
          | true =>
              simp only [if_true, Environment.resolveIp]
              rcases env.resolvePreferred tunnel.resolver address.ip.text world with
                ⟨ending, sought⟩
              cases ending <;> rfl
          | false => rfl

/-- Where IPv4 is preferred, a host that is not found is unresolvable. -/
theorem normalize_failed {text : String} {address : Address} {failure : Failure} {world world' : ω}
    (h : normalize env tunnel text address world = (.failed failure, world')) :
    failure = .hostUnresolvable text := by
  unfold normalize Environment.resolvePreferred Environment.records at h
  split at h
  · generalize env.lookup tunnel.resolver text world = result at h
    obtain ⟨ending, sought⟩ := result
    cases ending with
    | done found =>
        cases found with
        | nil =>
            obtain ⟨rfl, -⟩ := by simpa [Ending.map] using h
            rfl
        | cons first others => simp [Ending.map] at h
    | failed fault =>
        obtain ⟨rfl, -⟩ := by simpa [Ending.map] using h
        rfl
    | abandoned => simp [Ending.map] at h
  · simp at h

/-- No address is found only if the host is none, is not found, or the endpoint has no address. -/
theorem aim_failed {goal : Goal} {failure : Failure} {world world' : ω}
    (h : aim env tunnel goal world = (.failed failure, world')) :
    (∃ cause, failure = .invalidAddress cause) ∨ (∃ host, failure = .hostUnresolvable host) ∨
      failure = .unsupportedAddress := by
  cases goal with
  | host text port =>
      unfold aim aimAtHost at h
      dsimp only at h
      generalize Host.ofText text = parsed at h
      cases parsed with
      | error cause =>
          obtain ⟨rfl, -⟩ := by simpa using h
          exact .inl ⟨cause, rfl⟩
      | ok host => exact .inr (.inl ⟨_, normalize_failed env tunnel h⟩)
  | endpoint endpoint limit =>
      cases endpoint with
      | localPath path =>
          obtain ⟨rfl, -⟩ := by simpa [aim, aimAtEndpoint] using h
          exact .inr (.inr rfl)
      | inet address => exact .inr (.inl ⟨_, normalize_failed env tunnel h⟩)

/-! ## Readiness -/

/-- An earlier attempt has come so far that the transport is connected, but no further: the tunnel
holds a connected transport without being connected itself. -/
def Unfinished (world : ω) : Prop :=
  tunnel.phase ≠ .connected ∧
    ∃ held, tunnel.transport = some held ∧ env.observe .isConnected held world = true

/-- How a tunnel comes to need a new transport, and what it is then.  Only a tunnel that was
connected changes in this, and only if it holds a transport is somebody called. -/
inductive Vacated (world : ω) : Tunnel τ π ρ → ω → Prop
  /-- It holds none. -/
  | empty (idle : tunnel.phase ≠ .connected) (holds_none : tunnel.transport = none) :
    Vacated world tunnel world
  /-- The one it holds has been closed. -/
  | stale {held : τ} (idle : tunnel.phase ≠ .connected) (holds : tunnel.transport = some held)
    (unconnected : env.observe .isConnected held world = false)
    (closed : env.observe .isClosed held world = true) : Vacated world tunnel world
  /-- It is connected but has lost its transport. -/
  | lost (connected : tunnel.phase = .connected) (holds_none : tunnel.transport = none) :
    Vacated world { tunnel with phase := .unbound, transport := none } world
  /-- It is connected, and has closed its transport. -/
  | released {old carried : τ} {world' : ω} (connected : tunnel.phase = .connected)
    (holds : tunnel.transport = some old)
    (closes : env.close old world = (.ok (), carried, world')) :
    Vacated world { tunnel with phase := .unbound, transport := none } world'

/-- What making a tunnel ready comes to: the reply, the tunnel and the world, in each of the four
cases, with the condition under which it is reached. -/
inductive Readied (world : ω) : Except Failure τ × Tunnel τ π ρ × ω → Prop
  /-- An earlier attempt is unfinished. -/
  | refused (unfinished : Unfinished env tunnel world) :
    Readied world (.error (.invalidState .unfinishedAttempt), tunnel, world)
  /-- The transport that is held can be dialed. -/
  | kept {held : τ} (idle : tunnel.phase ≠ .connected) (holds : tunnel.transport = some held)
    (unconnected : env.observe .isConnected held world = false)
    (unclosed : env.observe .isClosed held world = false) :
    Readied world (.ok held, tunnel, world)
  /-- The transport of a connected tunnel does not let itself be closed. -/
  | unreleased {old carried : τ} {fault : IoFault} {world' : ω}
    (connected : tunnel.phase = .connected) (holds : tunnel.transport = some old)
    (closes : env.close old world = (.error fault, carried, world')) :
    Readied world
      (.error (.io fault), { tunnel with phase := .unbound, transport := none }, world')
  /-- There is a new transport, or an attempt to set one up. -/
  | renewed {vacant : Tunnel τ π ρ} {world' : ω}
    (vacated : Vacated env tunnel world vacant world') :
    Readied world (renew env vacant world')

/-- Making a tunnel ready comes to what `Readied` lists.  This is the only place that opens `ready`;
a case distinction on `Readied` takes its place everywhere else. -/
theorem readied (world : ω) : Readied env tunnel world (ready env tunnel world) := by
  unfold ready
  cases hphase : tunnel.phase with
  | connected =>
      cases htransport : tunnel.transport with
      | none => exact .renewed (.lost hphase htransport)
      | some old =>
          dsimp only
          rcases hclose : env.close old world with ⟨reply, carried, world'⟩
          cases reply with
          | error fault => exact .unreleased hphase htransport hclose
          | ok _ => exact .renewed (.released hphase htransport hclose)
  | _ =>
      have hidle : tunnel.phase ≠ .connected := by simp [hphase]
      cases htransport : tunnel.transport with
      | none => exact .renewed (.empty hidle htransport)
      | some held =>
          dsimp only
          cases hconnected : env.observe .isConnected held world with
          | true => exact .refused ⟨hidle, held, htransport, hconnected⟩
          | false =>
              cases hclosed : env.observe .isClosed held world with
              | true => exact .renewed (.stale hidle htransport hconnected hclosed)
              | false => exact .kept hidle htransport hconnected hclosed

/-- A tunnel is renewed with a transport that is set up, or else is left as it was. -/
theorem renew_changes {reply : Except Failure τ} {renewed : Tunnel τ π ρ} {world world' : ω}
    (h : renew env tunnel world = (reply, renewed, world')) :
    (∃ transport, reply = .ok transport ∧ renewed = { tunnel with transport := some transport }) ∨
      ∃ fault, reply = .error (.io fault) ∧ renewed = tunnel := by
  simp only [renew] at h
  rcases hset : env.setUp tunnel.timeout tunnel.settings (env.create tunnel.route.head world).1
    (env.create tunnel.route.head world).2 with ⟨set, transport, world₁⟩
  simp only [hset] at h
  cases set with
  | ok _ =>
      obtain ⟨rfl, rfl, -⟩ := by simpa using h
      exact .inl ⟨transport, rfl, rfl⟩
  | error fault =>
      obtain ⟨rfl, rfl, -⟩ := by simpa using h
      exact .inr ⟨fault, rfl, rfl⟩

/-- A tunnel that needs a new transport has changed its phase, and holds none or a closed one. -/
theorem Vacated.changes {world world' : ω} {vacant : Tunnel τ π ρ}
    (h : Vacated env tunnel world vacant world') :
    vacant = { tunnel with
      phase := tunnel.phase.left
      transport := if tunnel.phase = .connected then none else tunnel.transport } := by
  cases h with
  | empty idle _ => simp [Phase.left_of_ne_connected idle, idle]
  | stale idle _ _ _ => simp [Phase.left_of_ne_connected idle, idle]
  | lost connected _ => simp [connected, Phase.left]
  | released connected _ _ => simp [connected, Phase.left]

/-- Making a tunnel ready gives its connection up and leaves it with the transport to dial.  If that
fails, a tunnel that was connected has lost its transport, and any other one keeps what it holds;
nothing else about the tunnel changes either way. -/
theorem ready_changes {reply : Except Failure τ} {prepared : Tunnel τ π ρ} {world world' : ω}
    (h : ready env tunnel world = (reply, prepared, world')) :
    (∃ transport, reply = .ok transport ∧
        prepared = { tunnel with phase := tunnel.phase.left, transport := some transport }) ∨
      ∃ failure, reply = .error failure ∧
        prepared = { tunnel with
          phase := tunnel.phase.left
          transport := if tunnel.phase = .connected then none else tunnel.transport } := by
  have hready := readied env tunnel world
  generalize ready env tunnel world = result at hready h
  cases hready with
  | refused unfinished =>
      obtain ⟨rfl, rfl, -⟩ := by simpa using h
      have hidle := unfinished.1
      exact .inr ⟨_, rfl, by simp [Phase.left_of_ne_connected hidle, hidle]⟩
  | kept idle holds _ _ =>
      obtain ⟨rfl, rfl, -⟩ := by simpa using h
      exact .inl ⟨_, rfl, by simp [Phase.left_of_ne_connected idle, ← holds]⟩
  | unreleased connected _ _ =>
      obtain ⟨rfl, rfl, -⟩ := by simpa using h
      exact .inr ⟨_, rfl, by simp [connected, Phase.left]⟩
  | renewed vacated =>
      have hvacant := vacated.changes
      rcases renew_changes env _ h with ⟨transport, hreply, hprepared⟩ | ⟨fault, hreply, hprepared⟩
      · exact .inl ⟨transport, hreply, by rw [hprepared, hvacant]⟩
      · exact .inr ⟨_, hreply, by rw [hprepared, hvacant]⟩

/-- Made ready or not, a tunnel has given its connection up, and nothing but its transport is
another. -/
theorem ready_frame {reply : Except Failure τ} {prepared : Tunnel τ π ρ} {world world' : ω}
    (h : ready env tunnel world = (reply, prepared, world')) :
    prepared = { tunnel with phase := tunnel.phase.left, transport := prepared.transport } := by
  obtain ⟨_, _, rfl⟩ | ⟨_, _, rfl⟩ := ready_changes env tunnel h <;> rfl

/-- Made ready or not, a tunnel is not connected. -/
theorem ready_idle {reply : Except Failure τ} {prepared : Tunnel τ π ρ} {world world' : ω}
    (h : ready env tunnel world = (reply, prepared, world')) : prepared.phase ≠ .connected := by
  rw [ready_frame env tunnel h]
  exact tunnel.phase.left_ne_connected

/-- A tunnel that holds nothing is made ready with a new transport. -/
theorem ready_of_empty {world : ω} (idle : tunnel.phase ≠ .connected)
    (holds_none : tunnel.transport = none) : ready env tunnel world = renew env tunnel world := by
  unfold ready
  rw [holds_none]
  cases hphase : tunnel.phase with
  | connected => exact absurd hphase idle
  | _ => rfl

/-- An unfinished attempt keeps a tunnel from being made ready. -/
theorem ready_of_unfinished {world : ω} (h : Unfinished env tunnel world) :
    ready env tunnel world = (.error (.invalidState .unfinishedAttempt), tunnel, world) := by
  obtain ⟨idle, held, holds, connected⟩ := h
  unfold ready
  rw [holds]
  cases hphase : tunnel.phase with
  | connected => exact absurd hphase idle
  | _ => simp [connected]

/-! ## Attempts at an address -/

/-- An attempt for which the tunnel cannot be made ready ends there. -/
theorem attempt_of_ready_error {destination : Address} {limit : Option (Option Duration)}
    {failure : Failure} {prepared : Tunnel τ π ρ} {world world' : ω}
    (h : ready env tunnel (env.copyRoute tunnel.route world).2 =
      (.error failure, prepared, world')) :
    attempt env tunnel destination limit world = (.failed failure, prepared, world') := by
  simp only [attempt, h]

/-- An attempt is refused while an earlier one is unfinished. -/
theorem attempt_of_unfinished {destination : Address} {limit : Option (Option Duration)}
    {world : ω} (h : Unfinished env tunnel (env.copyRoute tunnel.route world).2) :
    attempt env tunnel destination limit world =
      (.failed (.invalidState .unfinishedAttempt), tunnel,
        (env.copyRoute tunnel.route world).2) :=
  attempt_of_ready_error env tunnel (ready_of_unfinished env tunnel h)

/-- An attempt for which the tunnel is made ready walks the route over the transport it got.
Whatever comes of the walk, the destination and the transport are stored; only a walk that succeeds
makes the tunnel connected, and the log tells of that. -/
theorem attempt_of_ready {destination : Address} {limit : Option (Option Duration)}
    {transport limited carried : τ} {prepared : Tunnel τ π ρ} {walked : Route π}
    {ending : Ending Failure Unit} {world readied started finished : ω}
    (is_ready : ready env tunnel (env.copyRoute tunnel.route world).2 =
      (.ok transport, prepared, readied))
    (is_limited : limitDial env limit transport readied = (limited, started))
    (is_walked : env.walk tunnel.route destination limited started =
      (ending, walked, carried, finished)) :
    attempt env tunnel destination limit world =
      match ending with
      | .done () =>
        (.done (), { prepared with
            destination := some destination, transport := some carried, phase := .connected },
          env.log (.connected destination tunnel.route.length) finished)
      | ending =>
        (ending, { prepared with destination := some destination, transport := some carried },
          finished) := by
  simp only [Environment.copyRoute_eq] at is_ready
  simp only [attempt, Environment.copyRoute_eq, is_ready, is_limited, is_walked]
  cases ending <;> rfl

/-- What an attempt at an address comes to: how it ends, the tunnel and the world, each in terms of
the steps it is made of. -/
inductive Attempted (destination : Address) (limit : Option (Option Duration)) (world : ω) :
    Ending Failure Unit × Tunnel τ π ρ × ω → Prop
  /-- The tunnel could not be made ready. -/
  | unready {failure : Failure} {prepared : Tunnel τ π ρ} {world' : ω}
    (is_ready : ready env tunnel (env.copyRoute tunnel.route world).2 =
      (.error failure, prepared, world')) :
    Attempted destination limit world (.failed failure, prepared, world')
  /-- The route was walked to its end. -/
  | connected {transport limited carried : τ} {prepared : Tunnel τ π ρ} {walked : Route π}
    {readied started finished : ω}
    (is_ready : ready env tunnel (env.copyRoute tunnel.route world).2 =
      (.ok transport, prepared, readied))
    (is_limited : limitDial env limit transport readied = (limited, started))
    (is_walked : env.walk tunnel.route destination limited started =
      (.done (), walked, carried, finished)) :
    Attempted destination limit world
      (.done (), { prepared with
          destination := some destination, transport := some carried, phase := .connected },
        env.log (.connected destination tunnel.route.length) finished)
  /-- The walk over the route ended in another way.  Whatever came of it is stored. -/
  | stranded {transport limited carried : τ} {prepared : Tunnel τ π ρ} {walked : Route π}
    {ending : Ending Failure Unit} {readied started finished : ω}
    (is_ready : ready env tunnel (env.copyRoute tunnel.route world).2 =
      (.ok transport, prepared, readied))
    (is_limited : limitDial env limit transport readied = (limited, started))
    (is_walked : env.walk tunnel.route destination limited started =
      (ending, walked, carried, finished))
    (not_done : ending ≠ .done ()) :
    Attempted destination limit world
      (ending, { prepared with destination := some destination, transport := some carried },
        finished)

/-- An attempt at an address comes to what `Attempted` lists, whatever the tunnel and the world are;
no other proof opens `attempt`. -/
theorem attempted (destination : Address) (limit : Option (Option Duration)) (world : ω) :
    Attempted env tunnel destination limit world
      (attempt env tunnel destination limit world) := by
  rcases hready : ready env tunnel (env.copyRoute tunnel.route world).2 with
    ⟨reply, prepared, readied⟩
  cases reply with
  | error failure =>
      rw [attempt_of_ready_error env tunnel hready]
      exact .unready hready
  | ok transport =>
      rcases hlimit : limitDial env limit transport readied with ⟨limited, started⟩
      rcases hwalk : env.walk tunnel.route destination limited started with
        ⟨ending, walked, carried, finished⟩
      rw [attempt_of_ready env tunnel hready hlimit hwalk]
      cases ending with
      | done _ => exact .connected hready hlimit hwalk
      | failed failure => exact .stranded hready hlimit hwalk (by simp)
      | abandoned => exact .stranded hready hlimit hwalk (by simp)

end Tunnel

end RelayRoute
