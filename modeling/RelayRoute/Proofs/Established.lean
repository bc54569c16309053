import RelayRoute.Proofs.FailedAttempt
import RelayRoute.Proofs.Run
import RelayRoute.Proofs.Walk
import RelayRoute.Scripted.Environment

/-!
# Where a connected tunnel leads

A tunnel stores its phase, its transport and its destination at different moments of an attempt.
`Established` says how the three belong together all the same: if the phase is connected, the calls
of one whole journey to the destination were made over the transport that is held.  Every way to
make a tunnel establishes this, and every operation keeps it, also an attempt that fails or is
abandoned halfway.

* `Established.attempt` — an attempt makes a whole journey or leaves no connection behind;
* `Established.step` — so every operation keeps it, lending the transport included;
* `Reachable.established` — so it holds after every run;
* `connected_of_reachable` — the main result, read off the invariant.
-/

namespace RelayRoute.Tunnel

variable {ω τ π ρ ν : Type} {env : Environment ω τ π ρ} {note : τ → ω → ν}

/-- What a tunnel over a route and its ledger show after attempts with certain targets: the route is
the configured one, the destination is the target of the latest of these attempts, and a tunnel that
is connected holds a transport over which the whole journey to the destination was made. -/
structure Established (route : Route π) (targets : List Address)
    (tunnel : Tunnel (Numbered τ) (Numbered π) ρ) (ledger : Ledger ω ν) : Prop where
  route_eq : tunnel.route = route.numbered
  destination_eq : tunnel.destination = targets.getLast?
  /-- One attempt made the whole journey to the destination over the transport that is held. -/
  journey : tunnel.phase = .connected →
    ∃ held target, tunnel.transport = some held ∧ tunnel.destination = some target ∧
      route.journey target held.number <:+: ledger.calls

namespace Established

variable {route : Route π} {targets : List Address}
  {tunnel : Tunnel (Numbered τ) (Numbered π) ρ} {ledger later : Ledger ω ν}

/-- A tunnel that is not connected has no journey to show. -/
theorem of_ne_connected (hroute : tunnel.route = route.numbered)
    (hdestination : tunnel.destination = targets.getLast?) (idle : tunnel.phase ≠ .connected) :
    Established route targets tunnel ledger :=
  ⟨hroute, hdestination, fun connected => absurd connected idle⟩

/-- Calls that leave the tunnel alone. -/
theorem grow (h : Established route targets tunnel ledger)
    (hgrowth : ledger.entries <+: later.entries) : Established route targets tunnel later where
  route_eq := h.route_eq
  destination_eq := h.destination_eq
  journey := by
    intro connected
    obtain ⟨held, target, holds, hdestination, hjourney⟩ := h.journey connected
    obtain ⟨made, hmade⟩ := Ledger.calls_of_growth hgrowth
    rw [hmade]
    exact ⟨held, target, holds, hdestination, List.infix_append_of_infix_left hjourney⟩

/-- Something is done with the transport, which keeps its number. -/
theorem carry (h : Established route targets tunnel ledger) {held carried : Numbered τ}
    (holds : tunnel.transport = some held) (hnumber : carried.number = held.number)
    (hgrowth : ledger.entries <+: later.entries) :
    Established route targets { tunnel with transport := some carried } later where
  route_eq := h.route_eq
  destination_eq := h.destination_eq
  journey := by
    intro connected
    obtain ⟨held', target, holds', hdestination, hjourney⟩ := (h.grow hgrowth).journey connected
    obtain rfl : held = held' := Option.some.inj (holds.symm.trans holds')
    exact ⟨carried, target, rfl, hdestination, hnumber ▸ hjourney⟩

/-- An attempt either makes a whole journey or leaves no connection behind.  Its target joins the
targets exactly if the tunnel could be made ready, also if the walk then fails or is abandoned. -/
theorem attempt (h : Established route targets tunnel ledger) (target : Address)
    (limit : Option (Option Duration)) {reply : Except Failure (Numbered τ)}
    {prepared : Tunnel (Numbered τ) (Numbered π) ρ} {readied : Ledger ω ν}
    (hready : ready (env.recorded note) tunnel
      ((env.recorded note).copyRoute tunnel.route ledger).2 = (reply, prepared, readied)) :
    Established route (targets ++ (reply.toOption.map fun _ => target).toList)
      (Tunnel.attempt (env.recorded note) tunnel target limit ledger).2.1
      (Tunnel.attempt (env.recorded note) tunnel target limit ledger).2.2 := by
  have hidle := ready_idle _ _ hready
  have hroute : prepared.route = route.numbered := by
    rw [ready_frame _ _ hready]
    exact h.route_eq
  have hattempted := attempted (env.recorded note) tunnel target limit ledger
  generalize Tunnel.attempt (env.recorded note) tunnel target limit ledger = result
    at hattempted ⊢
  cases hattempted with
  | unready is_ready =>
      obtain ⟨rfl, rfl, rfl⟩ := by simpa [hready] using is_ready
      refine of_ne_connected hroute ?_ hidle
      rw [ready_frame _ _ hready]
      simpa [Except.toOption] using h.destination_eq
  | @connected _ _ carried _ _ _ _ finished is_ready is_limited is_walked =>
      obtain ⟨rfl, rfl, rfl⟩ := by simpa [hready] using is_ready
      rw [h.route_eq] at is_walked
      obtain ⟨hnumber, hcalls⟩ := env.walk_done_calls note is_walked
      refine ⟨hroute, by simp [Except.toOption], fun _ => ⟨carried, target, rfl, rfl, ?_⟩⟩
      have hlogged : ((env.recorded note).log (.connected target tunnel.route.length)
          finished).calls = finished.calls := Ledger.calls_write finished _ _
      rw [hlogged, hcalls, hnumber]
      exact List.infix_append_right
  | stranded is_ready is_limited is_walked not_done =>
      obtain ⟨rfl, rfl, rfl⟩ := by simpa [hready] using is_ready
      exact of_ne_connected hroute (by simp [Except.toOption]) hidle

theorem pursue (h : Established route targets tunnel ledger) (goal : Goal) :
    Established route
      (targets ++ (prepares (env.recorded note) tunnel (.pursue goal) ledger).toList)
      (Tunnel.pursue (env.recorded note) tunnel goal ledger).2.1
      (Tunnel.pursue (env.recorded note) tunnel goal ledger).2.2 := by
  have hgrowth := respects_aim (env.recorded_respects_growth note).toRespectsLookups tunnel goal
    ledger
  rw [pursue_eq]
  unfold prepares
  dsimp only
  generalize aim (env.recorded note) tunnel goal ledger = aimed at hgrowth ⊢
  obtain ⟨ending, sought⟩ := aimed
  cases ending with
  | done target =>
      rcases hready : ready (env.recorded note) tunnel
        ((env.recorded note).copyRoute tunnel.route sought).2 with ⟨reply, prepared, readied⟩
      have hattempt := (h.grow hgrowth).attempt target goal.limit? hready
      simp only [hready]
      cases reply <;> exact hattempt
  | _ => simpa using h.grow hgrowth

theorem lend (h : Established route targets tunnel ledger) (use : τ → ω → τ × ω) :
    Established route targets
      (step (env.recorded note) tunnel (Operation.lend use).recorded ledger).1
      (step (env.recorded note) tunnel (Operation.lend use).recorded ledger).2 := by
  simp only [step, Operation.recorded, Tunnel.lend]
  cases htransport : tunnel.transport with
  | none => exact h
  | some held => exact h.carry htransport rfl List.prefix_rfl

/-- Doing something with the transport. -/
theorem perform (h : Established route targets tunnel ledger) (action : Action) :
    Established route targets (Tunnel.perform (env.recorded note) tunnel action ledger).2.1
      (Tunnel.perform (env.recorded note) tunnel action ledger).2.2 := by
  unfold Tunnel.perform
  cases htransport : tunnel.transport with
  | none => exact h
  | some held =>
      exact h.carry htransport rfl ((env.recorded_respects_growth note).perform action held ledger)

/-- **Every operation keeps it**, whatever the environment answers, and the targets grow by that of
the operation, if it is an attempt for which the tunnel was made ready. -/
theorem step (h : Established route targets tunnel ledger) (operation : Operation ω τ ρ) :
    Established route
      (targets ++ (prepares (env.recorded note) tunnel operation.recorded ledger).toList)
      (step (env.recorded note) tunnel operation.recorded ledger).1
      (step (env.recorded note) tunnel operation.recorded ledger).2 := by
  cases operation with
  | pursue goal => exact h.pursue goal
  | close =>
      have hclosed := close_tunnel (env.recorded note) tunnel ledger
      refine of_ne_connected ?_ ?_ ?_
      · simpa [Tunnel.step, Operation.recorded, hclosed] using h.route_eq
      · simpa [Tunnel.step, Operation.recorded, hclosed, prepares] using h.destination_eq
      · simp [Tunnel.step, Operation.recorded, hclosed]
  | perform action => simpa [Tunnel.step, prepares, Operation.recorded] using h.perform action
  | locate =>
      have hgrowth := respects_destinationIp
        (env.recorded_respects_growth note).toRespectsLookups tunnel ledger
      simpa [Tunnel.step, prepares, Operation.recorded] using h.grow hgrowth
  | lend use => simpa [prepares, Operation.recorded] using h.lend use
  | setResolver resolver =>
      refine ⟨h.route_eq, ?_, h.journey⟩
      simpa [Tunnel.step, prepares, Operation.recorded] using h.destination_eq

theorem holding (transport : Numbered τ) (prefersIpv4 : Bool) :
    Established route [] (Tunnel.holding (env.recorded note) route.numbered transport prefersIpv4)
      ledger :=
  of_ne_connected rfl rfl (by simp [Tunnel.holding])

/-- A new tunnel that is connected at once. -/
theorem made {goal : Goal} {prefersIpv4 : Bool} {new : Tunnel (Numbered τ) (Numbered π) ρ}
    {world start : Ledger ω ν}
    (hcreate : create (env.recorded note) route.numbered prefersIpv4 world = (new, start))
    (hpursue : Tunnel.pursue (env.recorded note) new goal start = (.done (), tunnel, ledger)) :
    Established route (prepares (env.recorded note) new (.pursue goal) start).toList
      tunnel ledger := by
  have hnew : Established route [] new start := by
    obtain ⟨rfl, -⟩ := by simpa [create] using hcreate
    exact holding _ prefersIpv4
  have hafter : Established route
      ([] ++ (prepares (env.recorded note) new (.pursue goal) start).toList)
      (Tunnel.pursue (env.recorded note) new goal start).2.1
      (Tunnel.pursue (env.recorded note) new goal start).2.2 := hnew.pursue goal
  rwa [hpursue] at hafter

end Established

/-- **Every run leads to it**, with the targets that the run remembers.  The induction is on the
run, with one case for each way to make a tunnel. -/
theorem Reachable.established {route : Route π} {targets : List Address}
    {tunnel : Tunnel (Numbered τ) (Numbered π) ρ} {ledger : Ledger ω ν}
    (h : Reachable env note route targets tunnel ledger) :
    Established route targets tunnel ledger := by
  induction h with
  | create prefersIpv4 world made =>
      obtain ⟨rfl, -⟩ := by simpa [create] using made
      exact .holding _ prefersIpv4
  | ofTransport transport prefersIpv4 world receive made =>
      unfold Tunnel.ofTransport at made
      split at made
      · cases made
      · obtain rfl := Except.ok.inj made
        exact .holding _ prefersIpv4
  | ofConfig config world made =>
      unfold Tunnel.ofConfig at made
      dsimp only at made
      generalize (env.recorded note).setUp config.timeout config.settings _ _ = result at made
      obtain ⟨reply, transport, later⟩ := result
      cases reply with
      | error fault => simp at made
      | ok _ =>
          obtain ⟨rfl, rfl⟩ := by simpa using made
          exact .of_ne_connected rfl rfl (by simp [Tunnel.holding])
  | toHost host port prefersIpv4 world create made =>
      unfold Tunnel.toHost at made
      rw [create] at made
      exact .made create (pursue_of_made made)
  | toEndpoint endpoint prefersIpv4 world create made =>
      unfold Tunnel.toEndpoint at made
      rw [create] at made
      exact .made create (pursue_of_made made)
  | step reached operation ih => exact ih.step operation

/-- **Where a connected tunnel leads.**  Whatever was done with a tunnel, if it is connected then it
holds a transport over which one attempt has made the whole journey to the destination.  The
destination is the target of the latest attempt for which the tunnel could be made ready, if there
was one; closing the tunnel does not change it.  No two transports have been created with one
number, so the number tells which transport it is. -/
theorem connected_of_reachable {route : Route π} {targets : List Address}
    {tunnel : Tunnel (Numbered τ) (Numbered π) ρ} {ledger : Ledger ω ν}
    (h : Reachable env note route targets tunnel ledger) :
    (tunnel.phase = .connected →
      ∃ held target, tunnel.transport = some held ∧ tunnel.destination = some target ∧
        route.journey target held.number <:+: ledger.calls) ∧
    tunnel.destination = targets.getLast? ∧
    (close (env.recorded note) tunnel ledger).2.1.destination = tunnel.destination ∧
    ledger.created.Nodup := by
  have hestablished := h.established
  refine ⟨hestablished.journey, hestablished.destination_eq, ?_, h.created_nodup⟩
  rw [close_tunnel]

/-- Where two proxies relay, a new tunnel is connected through both. -/
theorem connected_through_two :
    let route := Scripted.throughTwo {}
    let target : Address := ⟨.v4 ⟨198, 51, 100, 7⟩, 43⟩
    ∃ tunnel ledger,
      Reachable Scripted.environment (fun _ _ => ()) route [target] tunnel ledger ∧
      tunnel.phase = .connected ∧
      ∃ held target, tunnel.transport = some held ∧ tunnel.destination = some target ∧
        route.journey target held.number <:+: ledger.calls := by
  intro route target
  have hcreate : Reachable Scripted.environment (fun _ _ => ()) route [] _ _ :=
    .create false ({} : Scripted.Stage) rfl
  have hrun := hcreate.step (.pursue (.endpoint (.inet (.v4 ⟨198, 51, 100, 7⟩ 43)) none))
  exact ⟨_, _, hrun, rfl, (connected_of_reachable hrun).1 rfl⟩

end RelayRoute.Tunnel
