import RelayRoute.Proofs.Respect
import RelayRoute.Scripted.Environment

/-!
# What a failed attempt leaves behind

An attempt can fail or be abandoned in three ways that a tunnel shows.  Without an address nothing
has changed.  If an earlier attempt is unfinished nothing has changed either, and the attempt is
refused.  Otherwise a connection has been given up, and the destination is the new one exactly if
the tunnel was ready for the dial.

The three are told apart by what the steps of the attempt come to: `Tunnel.aim`, `Tunnel.Unfinished`
and `Tunnel.ready`, in the world that the attempt has led to by then.

* `attempt_destination`, `attempt_phase` — what an attempt at an address stores, and that without
  success it leaves no connection;
* `pursue_of_empty` — the next attempt of a tunnel without a transport starts by creating one;
* `failed_attempt` — the main result, with `failed_attempt_at_second` as a case of it.
-/

namespace RelayRoute.Tunnel

variable {ω τ π ρ ν : Type}

section

variable (env : Environment ω τ π ρ) (tunnel : Tunnel τ π ρ)

/-- An attempt that gets as far as the dial stores its destination, whatever comes of it: it is
stored before the route is walked. -/
theorem attempt_destination {destination : Address} {limit : Option (Option Duration)}
    {transport : τ} {prepared : Tunnel τ π ρ} {world world₁ : ω}
    (h : ready env tunnel (env.copyRoute tunnel.route world).2 =
      (.ok transport, prepared, world₁)) :
    (attempt env tunnel destination limit world).2.1.destination = some destination := by
  have hattempted := attempted env tunnel destination limit world
  generalize attempt env tunnel destination limit world = result at hattempted ⊢
  cases hattempted with
  | unready is_ready => simp [h] at is_ready
  | connected => rfl
  | stranded => rfl

/-- An attempt that does not succeed leaves no connection behind: a tunnel that was connected is so
no more, and any other one is in the phase it was in. -/
theorem attempt_phase {destination : Address} {limit : Option (Option Duration)}
    {ending : Ending Failure Unit} {after : Tunnel τ π ρ} {world later : ω}
    (h : attempt env tunnel destination limit world = (ending, after, later))
    (hfail : ending ≠ .done ()) : after.phase = tunnel.phase.left := by
  have hattempted := attempted env tunnel destination limit world
  rw [h] at hattempted
  cases hattempted with
  | unready is_ready => rw [ready_frame env tunnel is_ready]
  | connected => exact absurd rfl hfail
  | stranded is_ready => rw [ready_frame env tunnel is_ready]

end

/-- The first call for an empty tunnel is the creation of a transport. -/
theorem pursue_of_empty {env : Environment ω τ π ρ} {note : τ → ω → ν}
    {tunnel : Tunnel (Numbered τ) (Numbered π) ρ} {goal : Goal} {target : Address}
    {ledger sought : Ledger ω ν} (idle : tunnel.phase ≠ .connected)
    (holds_none : tunnel.transport = none)
    (haim : aim (env.recorded note) tunnel goal ledger = (.done target, sought)) :
    ∃ made, (pursue (env.recorded note) tunnel goal ledger).2.2.calls =
      sought.calls ++ .create sought.next :: made := by
  have hgrowth := env.recorded_respects_growth note
  have hlater := respects_attempt_readied hgrowth tunnel target goal.limit? sought
  rw [ready_of_empty _ _ idle holds_none] at hlater
  obtain ⟨made, hmade⟩ := Ledger.calls_of_growth
    (hgrowth.trans (respects_renew_created hgrowth.toRespectsPreparing tunnel _) hlater)
  refine ⟨made, ?_⟩
  rw [pursue_eq, haim, hmade]
  simp

/-- **What a failed attempt leaves behind.**  Without an address, and if an earlier attempt is
unfinished, nobody but resolvers was called and the tunnel is as it was.  Any other attempt leaves a
tunnel that is not connected, with the new destination if it had been made ready for the dial, and
with the old one if not; a tunnel that was connected then holds no transport, so that every later
attempt that finds an address starts with a new one. -/
theorem failed_attempt {env : Environment ω τ π ρ} {note : τ → ω → ν}
    {tunnel after : Tunnel (Numbered τ) (Numbered π) ρ} {goal : Goal} {ledger later : Ledger ω ν}
    {ending : Ending Failure Unit}
    (h : pursue (env.recorded note) tunnel goal ledger = (ending, after, later))
    (hfail : ending ≠ .done ()) :
    match aim (env.recorded note) tunnel goal ledger with
    | (.failed failure, _) =>
      ending = .failed failure ∧ after = tunnel ∧ ledger.OnlyLookups later ∧
        ((∃ cause, failure = .invalidAddress cause) ∨ (∃ host, failure = .hostUnresolvable host) ∨
          failure = .unsupportedAddress)
    | (.abandoned, _) => ending = .abandoned ∧ after = tunnel ∧ ledger.OnlyLookups later
    | (.done target, sought) =>
      let started := ((env.recorded note).copyRoute tunnel.route sought).2
      (Unfinished (env.recorded note) tunnel started →
        ending = .failed (.invalidState .unfinishedAttempt) ∧ after = tunnel ∧
          ledger.OnlyLookups later) ∧
      (¬ Unfinished (env.recorded note) tunnel started →
        after.phase = tunnel.phase.left ∧ after.phase ≠ .connected ∧
        match ready (env.recorded note) tunnel started with
        | (.ok _, _, _) => after.destination = some target
        | (.error failure, _, _) =>
          ending = .failed failure ∧ after.destination = tunnel.destination ∧
            (tunnel.phase = .connected → after.transport = none ∧
              ∀ goal ledger target sought,
                aim (env.recorded note) after goal ledger = (.done target, sought) →
                  ∃ made, (pursue (env.recorded note) after goal ledger).2.2.calls =
                    sought.calls ++ .create sought.next :: made)) := by
  have hlookups := respects_aim (env.recorded_respects_onlyLookups note) tunnel goal ledger
  rw [pursue_eq] at h
  rcases haim : aim (env.recorded note) tunnel goal ledger with ⟨aimed, sought⟩
  rw [haim] at h hlookups
  cases aimed with
  | failed failure =>
      obtain ⟨rfl, rfl, rfl⟩ := by simpa using h
      exact ⟨rfl, rfl, hlookups, aim_failed _ _ haim⟩
  | abandoned =>
      obtain ⟨rfl, rfl, rfl⟩ := by simpa using h
      exact ⟨rfl, rfl, hlookups⟩
  | done target =>
      dsimp only at h ⊢
      refine ⟨?_, ?_⟩
      · intro hunfinished
        rw [attempt_of_unfinished _ _ hunfinished] at h
        obtain ⟨rfl, rfl, rfl⟩ := by simpa using h
        have hcopied := (env.recorded_respects_onlyLookups note).copyRoute tunnel.route sought
        exact ⟨rfl, rfl, (env.recorded_respects_onlyLookups note).trans hlookups hcopied⟩
      · intro _
        have hphase := attempt_phase _ _ h hfail
        have hidle : after.phase ≠ .connected := by
          rw [hphase]
          exact tunnel.phase.left_ne_connected
        refine ⟨hphase, hidle, ?_⟩
        rcases hready : ready (env.recorded note) tunnel
          ((env.recorded note).copyRoute tunnel.route sought).2 with ⟨reply, prepared, readied⟩
        cases reply with
        | ok transport =>
            have hstored : (attempt (env.recorded note) tunnel target goal.limit?
                sought).2.1.destination = some target := attempt_destination _ _ hready
            rwa [h] at hstored
        | error failure =>
            rw [attempt_of_ready_error _ _ hready] at h
            obtain ⟨rfl, rfl, rfl⟩ := by simpa using h
            obtain ⟨_, hreply, _⟩ | ⟨_, -, hprepared⟩ := ready_changes _ _ hready
            · cases hreply
            · refine ⟨rfl, by rw [hprepared], ?_⟩
              intro hconnected
              have hnone : prepared.transport = none := by
                rw [hprepared]
                simp [hconnected]
              exact ⟨hnone, fun goal ledger target sought => pursue_of_empty hidle hnone⟩

/-- Where the second of two proxies rejects, a new tunnel is left with the destination only. -/
theorem failed_attempt_at_second :
    let env := Scripted.environment.recorded fun _ _ => ()
    let route := (Scripted.throughTwo { refusal := some (.rejected "no") }).numbered
    let goal : Goal := .endpoint (.inet (.v4 ⟨198, 51, 100, 7⟩ 43)) none
    let (tunnel, ledger) := create env route false (.start {})
    let (ending, after, _) := pursue env tunnel goal ledger
    ending = .failed (.relay ⟨.v4 ⟨192, 0, 2, 2⟩, 3128⟩ (.rejected "no")) ∧
      after.phase = .unbound ∧ after.destination = some ⟨.v4 ⟨198, 51, 100, 7⟩, 43⟩ := by
  intro env route goal
  have hfailed := @failed_attempt _ _ _ _ _ Scripted.environment (fun _ _ => ())
    (create env route false (.start {})).1 _ goal (create env route false (.start {})).2 _ _ rfl
    (by intro hdone; cases hdone)
  have hready : ¬ Unfinished env (create env route false (.start {})).1
      (env.copyRoute route (create env route false (.start {})).2).2 := by
    rintro ⟨-, held, holds, connected⟩
    cases holds
    cases connected
  obtain ⟨hphase, -, hdestination⟩ := hfailed.2 hready
  exact ⟨rfl, hphase, hdestination⟩

end RelayRoute.Tunnel
