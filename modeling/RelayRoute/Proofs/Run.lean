import RelayRoute.Proofs.Respect

/-!
# Runs of a tunnel

What can be done with a tunnel after it was made is an `Operation`; questions are left out, since
they change nothing.  Every operation is a step of the tunnel and the world.  A run starts with one
of the five ways to make a tunnel, in a world with an empty ledger, and goes on with any operations
in any order.  `Reachable` says which tunnels and ledgers that leads to, and remembers the targets
of the attempts for which the tunnel could be made ready.

An invariant is shown once for the ways to make a tunnel and once for a step, and then holds in
every reachable state.  What is common to such proofs is shown here:

* `step_plan`, `run_plan` — no operation changes what a tunnel was made with;
* `run_preserves` — what each operation keeps is kept by a run, so the induction over the operations
  is made here and not again for every invariant;
* `respects_step`, `respects_run` — a relation that every call keeps is kept by operations;
* `Reachable.respects` — and so it relates a whole run to an empty ledger;
* `Reachable.created_nodup` — no two transports of a run have one number;
* `Reachable.run` — a run goes on with operations.
-/

namespace RelayRoute

namespace Tunnel

variable {ω τ π ρ ν : Type}

/-- Closing changes the phase and takes the transport away, whether the transport lets itself be
closed or not. -/
theorem close_tunnel (env : Environment ω τ π ρ) (tunnel : Tunnel τ π ρ) (world : ω) :
    (close env tunnel world).2.1 = { tunnel with phase := .closed, transport := none } := by
  unfold close
  cases tunnel.transport <;> rfl

/-- A tunnel that is made by connecting a new one has been connected. -/
theorem pursue_of_made {env : Environment ω τ π ρ} {new tunnel : Tunnel τ π ρ} {goal : Goal}
    {start later : ω}
    (h : (let (ending, tunnel, world) := pursue env new goal start
      (ending.map fun () => tunnel, world)) = (.done tunnel, later)) :
    pursue env new goal start = (.done (), tunnel, later) := by
  generalize pursue env new goal start = result at h ⊢
  obtain ⟨ending, after, later'⟩ := result
  cases ending with
  | done _ =>
      obtain ⟨rfl, rfl⟩ := by simpa [Ending.map] using h
      rfl
  | _ => simp [Ending.map] at h

/-- Something that is done with a tunnel: an attempt, closing it, an action on its transport,
looking the destination up, lending the transport to the caller, or setting another resolver. -/
inductive Operation (ω τ ρ : Type)
  | pursue (goal : Goal)
  | close
  | perform (action : Action)
  /-- The IP address of the destination is asked for. -/
  | locate
  /-- The transport is lent to the caller, who may do anything with it but keep it. -/
  | lend (use : τ → ω → τ × ω)
  | setResolver (resolver : ρ)

/-- Lends the transport, if there is one.  The caller may do anything with it and with the world,
and gives a transport back, which is held from then on. -/
def lend (tunnel : Tunnel τ π ρ) (use : τ → ω → τ × ω) (world : ω) : Tunnel τ π ρ × ω :=
  match tunnel.transport with
  | none => (tunnel, world)
  | some held =>
    let (held, world) := use held world
    ({ tunnel with transport := some held }, world)

/-- The tunnel and the world after an operation. -/
def step (env : Environment ω τ π ρ) (tunnel : Tunnel τ π ρ) (operation : Operation ω τ ρ)
    (world : ω) : Tunnel τ π ρ × ω :=
  match operation with
  | .pursue goal => (pursue env tunnel goal world).2
  | .close => (close env tunnel world).2
  | .perform action => (perform env tunnel action world).2
  | .locate => (tunnel, (destinationIp env tunnel world).2)
  | .lend use => lend tunnel use world
  | .setResolver resolver => ({ tunnel with resolver }, world)

/-- The tunnel and the world after operations, one after another. -/
def run (env : Environment ω τ π ρ) :
    Tunnel τ π ρ → List (Operation ω τ ρ) → ω → Tunnel τ π ρ × ω
  | tunnel, [], world => (tunnel, world)
  | tunnel, operation :: operations, world =>
    let (tunnel, world) := step env tunnel operation world
    run env tunnel operations world

/-- The target of the attempt that an operation is, if it is one and the tunnel could be made ready
for it. -/
def prepares (env : Environment ω τ π ρ) (tunnel : Tunnel τ π ρ) (operation : Operation ω τ ρ)
    (world : ω) : Option Address :=
  match operation with
  | .pursue goal =>
    match aim env tunnel goal world with
    | (.done target, sought) =>
      match ready env tunnel (env.copyRoute tunnel.route sought).2 with
      | (.ok _, _, _) => some target
      | (.error _, _, _) => none
    | _ => none
  | _ => none

/-- An operation where a ledger is kept.  Whatever the caller does with a transport is done with
that transport, which keeps its number, and is no call of the tunnel, so it is not entered. -/
def Operation.recorded : Operation ω τ ρ → Operation (Ledger ω ν) (Numbered τ) ρ
  | .pursue goal => .pursue goal
  | .close => .close
  | .perform action => .perform action
  | .locate => .locate
  | .lend use => .lend fun held ledger =>
    let (value, world) := use held.value ledger.world
    ({ held with value }, { ledger with world })
  | .setResolver resolver => .setResolver resolver

/-! ## What operations leave alone -/

/-- What a tunnel is made with and keeps: its route, whether it prefers IPv4, and the limit and the
settings for its transports. -/
structure Plan (π : Type) where
  route : Route π
  prefersIpv4 : Bool
  timeout : Option Duration
  settings : Settings

/-- What a tunnel was made with. -/
def plan (tunnel : Tunnel τ π ρ) : Plan π :=
  ⟨tunnel.route, tunnel.prefersIpv4, tunnel.timeout, tunnel.settings⟩

section

variable (env : Environment ω τ π ρ) (tunnel : Tunnel τ π ρ)

/-- An attempt at an address keeps what the tunnel was made with. -/
theorem attempt_plan (destination : Address) (limit : Option (Option Duration)) (world : ω) :
    (attempt env tunnel destination limit world).2.1.plan = tunnel.plan := by
  have hattempted := attempted env tunnel destination limit world
  generalize attempt env tunnel destination limit world = result at hattempted ⊢
  cases hattempted with
  | unready is_ready =>
      rw [ready_frame env tunnel is_ready]
      rfl
  | connected is_ready is_limited is_walked =>
      rw [ready_frame env tunnel is_ready]
      rfl
  | stranded is_ready is_limited is_walked not_done =>
      rw [ready_frame env tunnel is_ready]
      rfl

/-- Every operation keeps what the tunnel was made with.  So nothing that happens to a tunnel has a
say in the route of later attempts, or in how later transports are set up. -/
theorem step_plan (operation : Operation ω τ ρ) (world : ω) :
    (step env tunnel operation world).1.plan = tunnel.plan := by
  cases operation with
  | pursue goal =>
      simp only [step, pursue_eq]
      rcases aim env tunnel goal world with ⟨ending, sought⟩
      cases ending with
      | done target => exact attempt_plan env tunnel target goal.limit? sought
      | _ => rfl
  | close =>
      simp only [step, close_tunnel]
      rfl
  | perform action =>
      simp only [step, perform]
      cases tunnel.transport <;> rfl
  | lend use =>
      simp only [step, lend]
      cases tunnel.transport <;> rfl
  | _ => rfl

/-- Operations, one after another, keep what the tunnel was made with. -/
theorem run_plan (operations : List (Operation ω τ ρ)) (world : ω) :
    (run env tunnel operations world).1.plan = tunnel.plan := by
  induction operations generalizing tunnel world with
  | nil => rfl
  | cons operation operations ih => exact (ih _ _).trans (step_plan env tunnel operation world)

variable {env tunnel}

/-- What holds at the start of a run holds at its end, if each operation of the run keeps it.  In
every step the tunnel is still what it was made as, so a step may count on the plan of the first
tunnel.  The operations are given by way of `f`, as operations where a ledger is kept are. -/
theorem run_preserves {α : Type} {P : Tunnel τ π ρ → ω → Prop} {f : α → Operation ω τ ρ}
    {operations : List α} {world : ω} (h : P tunnel world)
    (hstep : ∀ x ∈ operations, ∀ between now, between.plan = tunnel.plan → P between now →
      P (step env between (f x) now).1 (step env between (f x) now).2) :
    P (run env tunnel (operations.map f) world).1 (run env tunnel (operations.map f) world).2 := by
  induction operations generalizing tunnel world with
  | nil => exact h
  | cons x operations ih =>
      have hplan := step_plan env tunnel (f x) world
      refine ih (hstep x List.mem_cons_self tunnel world rfl h) ?_
      intro y hy between now hbetween
      exact hstep y (List.mem_cons_of_mem _ hy) between now (hbetween.trans hplan)

end

/-! ## Runs where a ledger is kept -/

/-- Every step leads to a related ledger, if every call does and what the caller does with a
transport is not seen. -/
theorem respects_step {env : Environment ω τ π ρ} {note : τ → ω → ν}
    {R : Ledger ω ν → Ledger ω ν → Prop} (h : (env.recorded note).Respects R)
    (unseen : ∀ ledger world, R ledger { ledger with world })
    (tunnel : Tunnel (Numbered τ) (Numbered π) ρ) (operation : Operation ω τ ρ)
    (ledger : Ledger ω ν) :
    R ledger (step (env.recorded note) tunnel operation.recorded ledger).2 := by
  cases operation with
  | pursue goal => exact respects_pursue h tunnel goal ledger
  | close => exact respects_close h.toRespectsPreparing tunnel ledger
  | perform action => exact respects_perform h.toRespectsPreparing tunnel action ledger
  | locate => exact respects_destinationIp h.toRespectsLookups tunnel ledger
  | lend use =>
      simp only [step, Operation.recorded, lend]
      cases tunnel.transport with
      | none => exact h.refl ledger
      | some held => exact unseen ledger _
  | setResolver resolver => exact h.refl ledger

/-- Operations, one after another, lead to a related ledger, if every call does and what the caller
does with a transport is not seen. -/
theorem respects_run {env : Environment ω τ π ρ} {note : τ → ω → ν}
    {R : Ledger ω ν → Ledger ω ν → Prop} (h : (env.recorded note).Respects R)
    (unseen : ∀ ledger world, R ledger { ledger with world })
    (tunnel : Tunnel (Numbered τ) (Numbered π) ρ) (operations : List (Operation ω τ ρ))
    (ledger : Ledger ω ν) :
    R ledger (run (env.recorded note) tunnel (operations.map .recorded) ledger).2 := by
  induction operations generalizing tunnel ledger with
  | nil => exact h.refl ledger
  | cons operation operations ih =>
      exact h.trans (respects_step h unseen tunnel operation ledger) (ih _ _)

/-- Between two worlds in which the caller has done something with a transport no number was given
away. -/
theorem numbers_unseen (ledger : Ledger ω ν) (world : ω) : ledger.Numbers { ledger with world } :=
  ⟨0, by simp [Ledger.created, Ledger.calls], rfl⟩

/-- The tunnels over a route that a run can lead to, each with the ledger and the targets of the
attempts that it was made ready for, earliest first.  There is one case for each way to make a
tunnel, and one for the next operation. -/
inductive Reachable (env : Environment ω τ π ρ) (note : τ → ω → ν) (route : Route π) :
    List Address → Tunnel (Numbered τ) (Numbered π) ρ → Ledger ω ν → Prop
  | create (prefersIpv4 : Bool) (world : ω) {tunnel : Tunnel (Numbered τ) (Numbered π) ρ}
    {ledger : Ledger ω ν}
    (made : create (env.recorded note) route.numbered prefersIpv4 (.start world) =
      (tunnel, ledger)) :
    Reachable env note route [] tunnel ledger
  | ofTransport (transport : τ) (prefersIpv4 : Bool) (world : ω) {received : Numbered τ}
    {ledger : Ledger ω ν} {tunnel : Tunnel (Numbered τ) (Numbered π) ρ}
    (receive : (Ledger.start world).receive transport = (received, ledger))
    (made : ofTransport (env.recorded note) route.numbered received prefersIpv4 ledger =
      .ok tunnel) :
    Reachable env note route [] tunnel ledger
  | ofConfig (config : Config) (world : ω) {tunnel : Tunnel (Numbered τ) (Numbered π) ρ}
    {ledger : Ledger ω ν}
    (made : ofConfig (env.recorded note) route.numbered config (.start world) =
      (.ok tunnel, ledger)) :
    Reachable env note route [] tunnel ledger
  | toHost (host : String) (port : UInt16) (prefersIpv4 : Bool) (world : ω)
    {new tunnel : Tunnel (Numbered τ) (Numbered π) ρ} {start ledger : Ledger ω ν}
    (create : create (env.recorded note) route.numbered prefersIpv4 (.start world) = (new, start))
    (made : toHost (env.recorded note) route.numbered host port prefersIpv4 (.start world) =
      (.done tunnel, ledger)) :
    Reachable env note route
      (prepares (env.recorded note) new (.pursue (.host host port)) start).toList tunnel ledger
  | toEndpoint (endpoint : Endpoint) (prefersIpv4 : Bool) (world : ω)
    {new tunnel : Tunnel (Numbered τ) (Numbered π) ρ} {start ledger : Ledger ω ν}
    (create : create (env.recorded note) route.numbered prefersIpv4 (.start world) = (new, start))
    (made : toEndpoint (env.recorded note) route.numbered endpoint prefersIpv4 (.start world) =
      (.done tunnel, ledger)) :
    Reachable env note route
      (prepares (env.recorded note) new (.pursue (.endpoint endpoint none)) start).toList
      tunnel ledger
  | step {targets : List Address} {tunnel : Tunnel (Numbered τ) (Numbered π) ρ}
    {ledger : Ledger ω ν} (reached : Reachable env note route targets tunnel ledger)
    (operation : Operation ω τ ρ) :
    Reachable env note route
      (targets ++ (prepares (env.recorded note) tunnel operation.recorded ledger).toList)
      (step (env.recorded note) tunnel operation.recorded ledger).1
      (step (env.recorded note) tunnel operation.recorded ledger).2

namespace Reachable

variable {env : Environment ω τ π ρ} {note : τ → ω → ν} {route : Route π} {targets : List Address}
  {tunnel : Tunnel (Numbered τ) (Numbered π) ρ} {ledger : Ledger ω ν}

/-- A whole run leads from a ledger without entries to a related one, if every call does and what
the caller does with a transport is not seen.  The induction is on the run. -/
theorem respects (h : Reachable env note route targets tunnel ledger)
    {R : Ledger ω ν → Ledger ω ν → Prop} (hR : (env.recorded note).Respects R)
    (unseen : ∀ ledger world, R ledger { ledger with world }) :
    ∃ world first, R ⟨world, first, []⟩ ledger := by
  induction h with
  | create prefersIpv4 world made =>
      have hmade := respects_create hR.toRespectsPreparing route.numbered prefersIpv4 (.start world)
      rw [made] at hmade
      exact ⟨world, 0, hmade⟩
  | ofTransport transport prefersIpv4 world receive made =>
      obtain ⟨-, rfl⟩ := by simpa [Ledger.receive] using receive
      exact ⟨world, 1, hR.refl _⟩
  | ofConfig config world made =>
      have hmade := respects_ofConfig hR.toRespectsPreparing route.numbered config (.start world)
      rw [made] at hmade
      exact ⟨world, 0, hmade⟩
  | toHost host port prefersIpv4 world hcreate made =>
      have hmade := respects_toHost hR route.numbered host port prefersIpv4 (.start world)
      rw [made] at hmade
      exact ⟨world, 0, hmade⟩
  | toEndpoint endpoint prefersIpv4 world hcreate made =>
      have hmade := respects_toEndpoint hR route.numbered endpoint prefersIpv4 (.start world)
      rw [made] at hmade
      exact ⟨world, 0, hmade⟩
  | step reached operation ih =>
      obtain ⟨world, first, hbefore⟩ := ih
      exact ⟨world, first, hR.trans hbefore (respects_step hR unseen _ operation _)⟩

/-- In a run no two transports that are created have one number, so that a number in the ledger
tells which transport a call went to. -/
theorem created_nodup (h : Reachable env note route targets tunnel ledger) :
    ledger.created.Nodup := by
  obtain ⟨world, first, count, hcreated, -⟩ :=
    h.respects (env.recorded_respects_numbers note) numbers_unseen
  rw [hcreated]
  exact List.nodup_range'

/-- A run goes on with operations, one after another. -/
theorem run (h : Reachable env note route targets tunnel ledger)
    (operations : List (Operation ω τ ρ)) :
    ∃ targets, Reachable env note route targets
      (Tunnel.run (env.recorded note) tunnel (operations.map .recorded) ledger).1
      (Tunnel.run (env.recorded note) tunnel (operations.map .recorded) ledger).2 := by
  induction operations generalizing targets tunnel ledger with
  | nil => exact ⟨targets, h⟩
  | cons operation operations ih => exact ih (h.step operation)

end Reachable

end Tunnel

end RelayRoute
