import RelayRoute.Proofs.Simulation

/-!
# Proxies are asked once

A proxy may keep something of a request in its state, and a copy of it that was asked must not be
asked again.  `Environment.tallied` makes this visible: it behaves like the environment it is made
of, but every state of a proxy remembers whether it was asked, and the world counts the requests to
proxies that had been asked before.  Since an attempt walks a copy of the configured route and drops
it at the end, there are none, and the configured proxies themselves are never asked.

* `talliedSimulation` — remembering changes no answer;
* `walk_repeated` — a walk over a route that was not asked asks each proxy once;
* `attempt_repeated`, `step_repeated` — an attempt walks a copy, and no other operation asks
  anybody;
* `run_repeated`, `run_tallied` — the main results: no proxy is asked twice in a run, and the run is
  the same as without remembering.
-/

namespace RelayRoute

/-- The state of a proxy, and whether it was asked. -/
structure Tallied (π : Type) where
  state : π
  asked : Bool

/-- A world, and how many requests went to a proxy that had been asked before. -/
structure Tally (ω : Type) where
  world : ω
  repeated : Nat

namespace Environment

variable {ω τ π ρ : Type}

/-- The environment in which proxies remember that they were asked. -/
def tallied (env : Environment ω τ π ρ) : Environment (Tally ω) τ (Tallied π) ρ where
  observe query transport tally := env.observe query transport tally.world
  perform action transport tally :=
    let (reply, transport, world) := env.perform action transport tally.world
    (reply, transport, { tally with world })
  close transport tally :=
    let (reply, transport, world) := env.close transport tally.world
    (reply, transport, { tally with world })
  create proxy tally :=
    let (transport, world) := env.create ⟨proxy.address, proxy.state.state⟩ tally.world
    (transport, { tally with world })
  dial proxy transport tally :=
    let (ending, state, transport, world) :=
      env.dial ⟨proxy.address, proxy.state.state⟩ transport tally.world
    (ending, { proxy.state with state }, transport, { tally with world })
  markReached proxy tally :=
    let (state, world) := env.markReached ⟨proxy.address, proxy.state.state⟩ tally.world
    ({ proxy.state with state }, { tally with world })
  request proxy target transport tally :=
    let (ending, state, transport, world) :=
      env.request ⟨proxy.address, proxy.state.state⟩ target transport tally.world
    (ending, ⟨state, true⟩, transport, ⟨world, tally.repeated + proxy.state.asked.toNat⟩)
  lookup resolver host tally :=
    let (ending, world) := env.lookup resolver host tally.world
    (ending, { tally with world })
  systemResolver := env.systemResolver
  log record tally := { tally with world := env.log record tally.world }

variable (env : Environment ω τ π ρ)

/-- Nothing that comes before a walk asks a proxy. -/
theorem tallied_respects_repeated :
    env.tallied.RespectsPreparing fun earlier later => later.repeated = earlier.repeated where
  refl _ := rfl
  trans hab hbc := hbc.trans hab
  lookup _ _ _ := rfl
  log _ _ := rfl
  perform _ _ _ := rfl
  close _ _ := rfl
  create _ _ := rfl

/-- An environment in which proxies remember that they were asked answers like the one it is made
of, so that what is counted in it is true of that one. -/
def talliedSimulation : Simulation env.tallied env where
  worlds tally world := tally.world = world
  transports s t := s = t
  states tallied state := tallied.state = state
  observe query := by
    rintro rfl rfl
    rfl
  perform action := by
    rintro rfl rfl
    exact ⟨rfl, rfl, rfl⟩
  close := by
    rintro _ _ _ _ rfl rfl
    exact ⟨rfl, rfl, rfl⟩
  create address := by
    rintro rfl rfl
    exact ⟨rfl, rfl⟩
  dial address := by
    rintro rfl rfl rfl
    exact ⟨rfl, rfl, rfl, rfl⟩
  markReached address := by
    rintro rfl rfl
    exact ⟨rfl, rfl⟩
  request address target := by
    rintro rfl rfl rfl
    exact ⟨rfl, rfl, rfl, rfl⟩
  lookup resolver host := by
    rintro rfl
    exact ⟨rfl, rfl⟩
  systemResolver := rfl
  log record := by
    rintro rfl
    rfl

end Environment

namespace Route

variable {π : Type}

/-- None of the proxies was asked. -/
def Unasked (route : Route (Tallied π)) : Prop :=
  ∀ proxy ∈ route.hops, proxy.state.asked = false

/-- A proxy that remembers that it was not asked. -/
def unaskedProxy (proxy : Proxy π) : Proxy (Tallied π) :=
  ⟨proxy.address, ⟨proxy.state, false⟩⟩

/-- The route through the same proxies, none of which was asked. -/
def unasked (route : Route π) : Route (Tallied π) :=
  ⟨unaskedProxy route.head, route.rest.map unaskedProxy⟩

theorem unasked_unasked (route : Route π) : route.unasked.Unasked := by
  have hhops : route.unasked.hops = route.hops.map unaskedProxy := rfl
  intro proxy hproxy
  rw [hhops] at hproxy
  obtain ⟨proxy, -, rfl⟩ := List.mem_map.mp hproxy
  rfl

end Route

namespace Environment

variable {ω τ π ρ : Type} (env : Environment ω τ π ρ)

/-- A proxy that was not asked is asked. -/
theorem ask_repeated {hop : Proxy (Tallied π)} (unasked : hop.state.asked = false)
    (target : Address) (transport : τ) (tally : Tally ω) :
    (env.tallied.ask hop target transport tally).2.2.2.repeated = tally.repeated := by
  have hrequest (tally : Tally ω) :
      (env.tallied.request hop target transport tally).2.2.2.repeated = tally.repeated := by
    simp [tallied, unasked]
  unfold ask
  dsimp only
  rcases hresult : env.tallied.request hop target transport
    (env.tallied.log (.asking hop.address target) tally) with ⟨ending, state, carried, asked⟩
  have hasked := hrequest (env.tallied.log (.asking hop.address target) tally)
  rw [hresult] at hasked
  cases ending <;> exact hasked

/-- From a proxy that is reached on, each proxy is asked once.  The induction is along the proxies
that are left: each of them is asked while it is unasked, and then left behind. -/
theorem relay_repeated {reached : Proxy (Tallied π)} (unasked : reached.state.asked = false)
    {others : List (Proxy (Tallied π))}
    (others_unasked : ∀ proxy ∈ others, proxy.state.asked = false)
    (target : Address) (transport : τ) (tally : Tally ω) :
    (env.tallied.relay target reached others transport tally).2.2.2.repeated = tally.repeated := by
  induction others generalizing reached transport tally with
  | nil => exact env.ask_repeated unasked target transport tally
  | cons next others ih =>
      have hask := env.ask_repeated unasked next.address transport tally
      have hnext := others_unasked next List.mem_cons_self
      have hothers : ∀ proxy ∈ others, proxy.state.asked = false :=
        fun proxy hproxy => others_unasked proxy (List.mem_cons_of_mem _ hproxy)
      unfold relay
      generalize env.tallied.ask reached next.address transport tally = result at hask ⊢
      obtain ⟨ending, hop, carried, asked⟩ := result
      cases ending with
      | done _ =>
          have hmarked : ({ next with state := (env.tallied.markReached next asked).1 } :
              Proxy (Tallied π)).state.asked = false := hnext
          exact (ih hmarked hothers carried _).trans hask
      | _ => exact hask

/-- A walk asks each proxy once.  Dialing the head does not ask it, so all proxies are still unasked
when the requests begin. -/
theorem walk_repeated {route : Route (Tallied π)} (unasked : route.Unasked) (target : Address)
    (transport : τ) (tally : Tally ω) :
    (env.tallied.walk route target transport tally).2.2.2.repeated = tally.repeated := by
  have hhead : route.head.state.asked = false := unasked _ List.mem_cons_self
  have hrest : ∀ proxy ∈ route.rest, proxy.state.asked = false :=
    fun proxy hproxy => unasked proxy (List.mem_cons_of_mem _ hproxy)
  have hdial : (env.tallied.dial route.head transport tally).2.2.2.repeated = tally.repeated := rfl
  have hstate : (env.tallied.dial route.head transport tally).2.1.asked = false := hhead
  unfold walk
  split
  · rfl
  · generalize env.tallied.dial route.head transport tally = result at hdial hstate ⊢
    obtain ⟨ending, state, carried, dialed⟩ := result
    cases ending with
    | done _ =>
        have hreached : ({ route.head with state } : Proxy (Tallied π)).state.asked = false :=
          hstate
        exact (env.relay_repeated hreached hrest target carried dialed).trans hdial
    | _ => exact hdial

end Environment

namespace Tunnel

variable {ω τ π ρ : Type} (env : Environment ω τ π ρ)

/-- An attempt at an address asks no proxy that was asked before: it walks a copy of the configured
route, and the lines that it logs ask nobody. -/
theorem attempt_repeated {tunnel : Tunnel τ (Tallied π) ρ} (unasked : tunnel.route.Unasked)
    (destination : Address) (limit : Option (Option Duration)) (tally : Tally ω) :
    (attempt env.tallied tunnel destination limit tally).2.2.repeated = tally.repeated := by
  have hprepared := respects_ready env.tallied_respects_repeated tunnel
    (env.tallied.copyRoute tunnel.route tally).2
  have hwalking {transport limited carried : τ} {prepared : Tunnel τ (Tallied π) ρ}
      {readied started finished : Tally ω} {ending : Ending Failure Unit}
      {walked : Route (Tallied π)}
      (is_ready : ready env.tallied tunnel (env.tallied.copyRoute tunnel.route tally).2 =
        (.ok transport, prepared, readied))
      (is_limited : limitDial env.tallied limit transport readied = (limited, started))
      (is_walked : env.tallied.walk tunnel.route destination limited started =
        (ending, walked, carried, finished)) : finished.repeated = tally.repeated := by
    have hlimited := respects_limitDial env.tallied_respects_repeated limit transport readied
    have hwalked := env.walk_repeated unasked destination limited started
    rw [is_ready] at hprepared
    rw [is_limited] at hlimited
    rw [is_walked] at hwalked
    exact hwalked.trans (hlimited.trans hprepared)
  have hattempted := attempted env.tallied tunnel destination limit tally
  generalize attempt env.tallied tunnel destination limit tally = result at hattempted ⊢
  cases hattempted with
  | unready is_ready =>
      rw [is_ready] at hprepared
      exact hprepared
  | connected is_ready is_limited is_walked =>
      have hfinished := hwalking is_ready is_limited is_walked
      exact hfinished
  | stranded is_ready is_limited is_walked not_done =>
      have hfinished := hwalking is_ready is_limited is_walked
      exact hfinished

/-- An operation where proxies remember that they were asked; the caller has no proxies. -/
def Operation.tallied : Operation ω τ ρ → Operation (Tally ω) τ ρ
  | .pursue goal => .pursue goal
  | .close => .close
  | .perform action => .perform action
  | .locate => .locate
  | .lend use => .lend fun held tally =>
    let (held, world) := use held tally.world
    (held, { tally with world })
  | .setResolver resolver => .setResolver resolver

/-- The tunnel through the same proxies, none of which was asked. -/
def tallied (tunnel : Tunnel τ π ρ) : Tunnel τ (Tallied π) ρ where
  route := tunnel.route.unasked
  transport := tunnel.transport
  destination := tunnel.destination
  phase := tunnel.phase
  prefersIpv4 := tunnel.prefersIpv4
  resolver := tunnel.resolver
  timeout := tunnel.timeout
  settings := tunnel.settings

/-- No operation asks a proxy that was asked before. -/
theorem step_repeated {tunnel : Tunnel τ (Tallied π) ρ} (unasked : tunnel.route.Unasked)
    (operation : Operation ω τ ρ) (tally : Tally ω) :
    (step env.tallied tunnel operation.tallied tally).2.repeated = tally.repeated := by
  have hprepared := env.tallied_respects_repeated
  cases operation with
  | pursue goal =>
      have haim := respects_aim hprepared.toRespectsLookups tunnel goal tally
      simp only [step, Operation.tallied, pursue_eq]
      generalize aim env.tallied tunnel goal tally = aimed at haim ⊢
      obtain ⟨ending, sought⟩ := aimed
      cases ending with
      | done target => exact (attempt_repeated env unasked target goal.limit? sought).trans haim
      | _ => exact haim
  | close => exact respects_close hprepared tunnel tally
  | perform action => exact respects_perform hprepared tunnel action tally
  | locate => exact respects_destinationIp hprepared.toRespectsLookups tunnel tally
  | lend use =>
      simp only [step, Operation.tallied, lend]
      cases tunnel.transport <;> rfl
  | setResolver resolver => rfl

/-- **No proxy is asked twice**, and the configured ones are never asked, whatever is done with a
tunnel.  That the configured route stays unasked is what carries this from one operation to the
next. -/
theorem run_repeated {tunnel : Tunnel τ (Tallied π) ρ} (unasked : tunnel.route.Unasked)
    (operations : List (Operation ω τ ρ)) (tally : Tally ω) :
    let (after, later) := tunnel.run env.tallied (operations.map .tallied) tally
    after.route.Unasked ∧ later.repeated = tally.repeated := by
  refine run_preserves (P := fun after (later : Tally ω) => after.route.Unasked ∧
    later.repeated = tally.repeated) ⟨unasked, rfl⟩ ?_
  intro operation _ between now _ ⟨still, hrepeated⟩
  have hroute : (step env.tallied between operation.tallied now).1.route = between.route :=
    congrArg Plan.route (step_plan env.tallied between operation.tallied now)
  have hstep := step_repeated env still operation now
  rw [← hroute] at still
  exact ⟨still, hstep.trans hrepeated⟩

/-- Where proxies remember that they were asked, everything that is done with a tunnel comes to the
same as where they do not, so that the count says something about every environment. -/
theorem run_tallied (tunnel : Tunnel τ π ρ) (operations : List (Operation ω τ ρ))
    (tally : Tally ω) :
    Both env.talliedSimulation.Tunnels env.talliedSimulation.worlds
      (tunnel.tallied.run env.tallied (operations.map .tallied) tally)
      (tunnel.run env operations tally.world) := by
  have hrest (proxies : List (Proxy π)) : List.Forall₂ env.talliedSimulation.Proxies
      (proxies.map Route.unaskedProxy) proxies := by
    induction proxies with
    | nil => exact .nil
    | cons proxy proxies ih => exact .cons ⟨rfl, rfl⟩ ih
  have htransport : Option.Rel env.talliedSimulation.transports tunnel.transport
      tunnel.transport := by
    cases tunnel.transport with
    | none => exact .none
    | some held => exact .some rfl
  have htunnel : env.talliedSimulation.Tunnels tunnel.tallied tunnel :=
    ⟨⟨⟨rfl, rfl⟩, hrest _⟩, htransport, rfl, rfl, rfl, rfl, rfl, rfl⟩
  refine env.talliedSimulation.run ?_ htunnel rfl
  induction operations with
  | nil => exact .nil
  | cons operation operations ih =>
      refine .cons ?_ ih
      cases operation with
      | pursue goal => exact .pursue goal
      | close => exact .close
      | perform action => exact .perform action
      | locate => exact .locate
      | lend use =>
          refine .lend ?_
          rintro _ _ _ _ rfl rfl
          exact ⟨rfl, rfl⟩
      | setResolver resolver => exact .setResolver resolver

end Tunnel

end RelayRoute
