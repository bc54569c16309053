import RelayRoute.Proofs.Course
import RelayRoute.Proofs.Established

/-!
# What proxies are asked for

An attempt asks proxies only once the tunnel was made ready for it, and then proxy `hop` for the
stop of that number on the way to the target: the address of the next proxy, and for the last proxy
the target.

* `Ledger.requests` — what proxies were asked for, each with its number, read off the calls of a
  run;
* `Route.Walked.filterMap_asked` — a walk asks for the first stops of its route;
* `Pursued`, `pursue_requests` — what one attempt asks for, together with the destination that it
  stores;
* `AsksFor`, `Reachable.asksFor` — the same for a run: every request is for the stop of its proxy on
  the way to one of the targets, and every operation keeps this;
* `Reachable.aims_at` — what holds of every address that an attempt can find holds of all targets of
  a run.
-/

namespace RelayRoute

/-- What a proxy is asked for by a call and the number of the proxy, if one is asked. -/
def Call.asked? : Call → Option (Address × Nat)
  | .request hop stop _ _ => some (stop, hop)
  | _ => none

/-- A call that asks a proxy for a stop. -/
theorem Call.asked?_eq_some {call : Call} {stop : Address} {hop : Nat} :
    call.asked? = some (stop, hop) ↔
      ∃ transport answer, call = .request hop stop transport answer := by
  cases call <;> simp [asked?, and_comm]

namespace Ledger

variable {ω ν : Type} (ledger : Ledger ω ν)

/-- What proxies were asked for, each with the number of the proxy, in order. -/
def requests : List (Address × Nat) :=
  ledger.calls.filterMap Call.asked?

@[simp] theorem requests_enter (call : Call) (before after : Option ν) (world : ω) :
    (ledger.enter call before after world).requests =
      ledger.requests ++ call.asked?.toList := by
  cases hasked : call.asked? <;> simp [requests, hasked]

@[simp] theorem requests_write (record : LogRecord) (world : ω) :
    (ledger.write record world).requests = ledger.requests := by
  simp [requests]

theorem mem_requests {stop : Address} {hop : Nat} :
    (stop, hop) ∈ ledger.requests ↔
      ∃ transport answer, Call.request hop stop transport answer ∈ ledger.calls := by
  simp only [requests, List.mem_filterMap, Call.asked?_eq_some]
  constructor
  · rintro ⟨call, hcall, transport, answer, rfl⟩
    exact ⟨transport, answer, hcall⟩
  · rintro ⟨transport, answer, hcall⟩
    exact ⟨_, hcall, transport, answer, rfl⟩

end Ledger

namespace Route

variable {π : Type} (route : Route π)

/-- The stop of the last proxy is the target. -/
theorem stops_last (target : Address) {hop : Nat} (h : hop + 1 = route.length) :
    (route.stops target)[hop]? = some target := by
  have hlength : hop = (route.rest.map (·.address)).length := by
    simp only [length, hops, List.length_cons] at h
    simpa using h
  rw [stops, hlength, List.getElem?_concat_length]

/-- The requests of a walk are for one stop after another.  The induction is on the stops, and
proxies are counted from the one that is asked first. -/
theorem asked_requests (transport : Nat) (last : Ending RelayFault Unit) (hop : Nat)
    (stops : List Address) :
    (requests transport last hop stops).filterMap Call.asked? = stops.zipIdx hop := by
  induction stops generalizing hop with
  | nil => rfl
  | cons stop stops ih =>
      cases stops with
      | nil => rfl
      | cons next stops =>
          rw [requests_cons transport last hop stop (by simp), List.zipIdx_cons, ← ih (hop + 1)]
          rfl

variable {route}

/-- A walk asks for the first stops of its route, and for all of them if it succeeds.  It may end at
a proxy, so how many there are is not said otherwise. -/
theorem Walked.filterMap_asked {target : Address} {transport : Nat} {made : List Call}
    {ending : Ending Failure Unit} (h : route.Walked target transport made ending) :
    ∃ count, made.filterMap Call.asked? = ((route.stops target).take count).zipIdx ∧
      (ending = .done () → count = route.length) := by
  cases h with
  | unreached fault => exact ⟨0, by simp [Call.asked?], by simp⟩
  | abandoned => exact ⟨0, by simp [Call.asked?], by simp⟩
  | @asked k hop answer is_hop is_last =>
      refine ⟨k + 1, ?_, fun hdone => is_last (Ending.blame_eq_done.mp hdone)⟩
      rw [List.filterMap_cons_none rfl, asked_requests]

/-- Each of the first stops is the one of its proxy. -/
theorem getElem?_of_mem_zipIdx {target stop : Address} {count hop : Nat}
    (h : (stop, hop) ∈ ((route.stops target).take count).zipIdx) :
    (route.stops target)[hop]? = some stop := by
  have hstop : ((route.stops target).take count)[hop]? = some stop :=
    List.mem_zipIdx_iff_getElem?.mp h
  rw [List.getElem?_take] at hstop
  split at hstop
  · exact hstop
  · cases hstop

end Route

namespace Environment

variable {ω τ π ρ ν : Type}

/-- Before a dial nobody is asked for anything. -/
theorem recorded_respects_requests (env : Environment ω τ π ρ) (note : τ → ω → ν) :
    (env.recorded note).RespectsPreparing fun earlier later =>
      later.requests = earlier.requests where
  refl _ := rfl
  trans hab hbc := hbc.trans hab
  lookup _ _ ledger := by simp [recorded, Call.asked?]
  log _ ledger := by simp [recorded]
  perform _ _ ledger := by simp [recorded, Call.asked?]
  close _ ledger := by simp [recorded, Call.asked?]
  create _ ledger := by simp [Ledger.requests, Call.asked?]

end Environment

namespace Tunnel

variable {ω τ π ρ ν : Type} {env : Environment ω τ π ρ} {note : τ → ω → ν}
  {tunnel : Tunnel (Numbered τ) (Numbered π) ρ} {route : Route π}

/-- What an attempt has stored as its destination and asked for, by the target for which the tunnel
was made ready, if it was. -/
inductive Pursued (route : Route π) (tunnel : Tunnel (Numbered τ) (Numbered π) ρ)
    (ledger : Ledger ω ν) : Option Address →
    Ending Failure Unit × Tunnel (Numbered τ) (Numbered π) ρ × Ledger ω ν → Prop
  | unready {ending : Ending Failure Unit} {after : Tunnel (Numbered τ) (Numbered π) ρ}
    {later : Ledger ω ν} (not_done : ending ≠ .done ())
    (destination : after.destination = tunnel.destination)
    (requests : later.requests = ledger.requests) :
    Pursued route tunnel ledger none (ending, after, later)
  /-- The first `count` proxies were asked. -/
  | ready {target : Address} {ending : Ending Failure Unit}
    {after : Tunnel (Numbered τ) (Numbered π) ρ} {later : Ledger ω ν} {count : Nat}
    (destination : after.destination = some target)
    (requests : later.requests =
      ledger.requests ++ ((route.stops target).take count).zipIdx)
    (whole : ending = .done () → count = route.length) :
    Pursued route tunnel ledger (some target) (ending, after, later)

/-- The requests of a walk over the transport that a tunnel was made ready with.  If the transport
is connected already nothing is called, and nothing succeeds. -/
theorem ready_walk_requests {target : Address} {limit : Option (Option Duration)}
    {transport limited carried : Numbered τ} {started readied dialing finished : Ledger ω ν}
    {prepared : Tunnel (Numbered τ) (Numbered π) ρ} {walked : Route (Numbered π)}
    {ending : Ending Failure Unit}
    (is_ready : ready (env.recorded note) tunnel started = (.ok transport, prepared, readied))
    (is_limited : limitDial (env.recorded note) limit transport readied = (limited, dialing))
    (is_walked : (env.recorded note).walk route.numbered target limited dialing =
      (ending, walked, carried, finished)) :
    ∃ count, finished.requests =
        started.requests ++ ((route.stops target).take count).zipIdx ∧
      (ending = .done () → count = route.length) := by
  have hpreparing := env.recorded_respects_requests note
  have hreadied : readied.requests = started.requests := by
    have h := respects_ready hpreparing tunnel started
    rwa [is_ready] at h
  have hdialing : dialing.requests = readied.requests := by
    have h := respects_limitDial hpreparing limit transport readied
    rwa [is_limited] at h
  have hbefore : dialing.calls.filterMap Call.asked? = started.requests :=
    hdialing.trans hreadied
  obtain ⟨-, walk, hwalk, hwalked⟩ := walk_calls_of_any is_walked
  rcases hwalked with rfl | hwalked
  · refine ⟨0, by simp [Ledger.requests, hwalk, hbefore], ?_⟩
    rintro rfl
    obtain ⟨-, hjourney⟩ := env.walk_done_calls note is_walked
    simp [hjourney, Route.journey] at hwalk
  · obtain ⟨count, hasked, hcount⟩ := hwalked.filterMap_asked
    refine ⟨count, ?_, hcount⟩
    rw [Ledger.requests, hwalk, List.filterMap_append, hbefore, hasked]

/-- What an attempt at an address asks for: nothing if the tunnel cannot be made ready, and what the
walk asks for otherwise. -/
theorem attempt_requests (hroute : tunnel.route = route.numbered) (target : Address)
    (limit : Option (Option Duration)) {ledger sought : Ledger ω ν}
    (hsought : sought.requests = ledger.requests) {reply : Except Failure (Numbered τ)}
    {prepared : Tunnel (Numbered τ) (Numbered π) ρ} {readied : Ledger ω ν}
    (hready : ready (env.recorded note) tunnel
      ((env.recorded note).copyRoute tunnel.route sought).2 = (reply, prepared, readied)) :
    Pursued route tunnel ledger (reply.toOption.map fun _ => target)
      (attempt (env.recorded note) tunnel target limit sought) := by
  have hstarted : ((env.recorded note).copyRoute tunnel.route sought).2.requests =
      ledger.requests :=
    ((env.recorded_respects_requests note).copyRoute tunnel.route sought).trans hsought
  have hattempted := attempted (env.recorded note) tunnel target limit sought
  generalize attempt (env.recorded note) tunnel target limit sought = result at hattempted ⊢
  cases hattempted with
  | unready is_ready =>
      obtain ⟨rfl, rfl, rfl⟩ := by simpa [hready] using is_ready
      have hreadied := respects_ready (env.recorded_respects_requests note) tunnel
        ((env.recorded note).copyRoute tunnel.route sought).2
      rw [hready] at hreadied
      refine .unready (by simp) ?_ (hreadied.trans hstarted)
      rw [ready_frame _ _ hready]
  | connected is_ready is_limited is_walked =>
      obtain ⟨rfl, rfl, rfl⟩ := by simpa [hready] using is_ready
      rw [hroute] at is_walked
      obtain ⟨count, hrequests, hcount⟩ := ready_walk_requests hready is_limited is_walked
      refine .ready rfl ?_ hcount
      rw [← hstarted, ← hrequests]
      exact Ledger.requests_write _ _ _
  | stranded is_ready is_limited is_walked not_done =>
      obtain ⟨rfl, rfl, rfl⟩ := by simpa [hready] using is_ready
      rw [hroute] at is_walked
      obtain ⟨count, hrequests, hcount⟩ := ready_walk_requests hready is_limited is_walked
      exact .ready rfl (by rw [hrequests, hstarted]) hcount

variable (env note)

/-- **What an attempt asks for.**  If the tunnel cannot be made ready for it, nobody is asked and
the destination is as it was.  Otherwise the destination is the target, and the first proxies are
asked for their stops on the way to it; if the attempt succeeds, all of them. -/
theorem pursue_requests (hroute : tunnel.route = route.numbered) (goal : Goal)
    (ledger : Ledger ω ν) :
    Pursued route tunnel ledger
      (prepares (env.recorded note) tunnel (.pursue goal) ledger)
      (pursue (env.recorded note) tunnel goal ledger) := by
  have haim := respects_aim (env.recorded_respects_requests note).toRespectsLookups tunnel goal
    ledger
  rw [pursue_eq]
  unfold prepares
  dsimp only
  generalize aim (env.recorded note) tunnel goal ledger = aimed at haim ⊢
  obtain ⟨ending, sought⟩ := aimed
  cases ending with
  | failed failure => exact .unready (by simp) rfl haim
  | abandoned => exact .unready (by simp) rfl haim
  | done target =>
      rcases hready : ready (env.recorded note) tunnel
        ((env.recorded note).copyRoute tunnel.route sought).2 with ⟨reply, prepared, readied⟩
      have hattempt := attempt_requests hroute target goal.limit? haim hready
      simp only [hready]
      cases reply <;> exact hattempt

variable {env note}

/-- A tunnel is made ready only for an address that the attempt has found. -/
theorem aim_of_prepares {env : Environment ω τ π ρ} {tunnel : Tunnel τ π ρ} {goal : Goal}
    {target : Address} {world : ω}
    (h : prepares env tunnel (.pursue goal) world = some target) :
    ∃ sought, aim env tunnel goal world = (.done target, sought) := by
  unfold prepares at h
  dsimp only at h
  generalize aim env tunnel goal world = aimed at h ⊢
  obtain ⟨ending, sought⟩ := aimed
  cases ending with
  | done found =>
      dsimp only at h
      split at h
      · obtain rfl := Option.some.inj h
        exact ⟨sought, rfl⟩
      · cases h
  | _ => cases h

namespace Reachable

variable {targets : List Address} {ledger : Ledger ω ν}

/-- What holds of every address that an attempt can find holds of every target of a run. -/
theorem aims_at (h : Reachable env note route targets tunnel ledger) {P : Address → Prop}
    (found : ∀ (tunnel : Tunnel (Numbered τ) (Numbered π) ρ) (goal : Goal) (ledger : Ledger ω ν)
      (target : Address) (sought : Ledger ω ν),
      aim (env.recorded note) tunnel goal ledger = (.done target, sought) → P target) :
    ∀ target ∈ targets, P target := by
  have hprepares {tunnel : Tunnel (Numbered τ) (Numbered π) ρ}
      (operation : Operation (Ledger ω ν) (Numbered τ) ρ) (ledger : Ledger ω ν) (target : Address)
      (hmem : target ∈ (prepares (env.recorded note) tunnel operation ledger).toList) :
      P target := by
    rw [Option.mem_toList] at hmem
    cases operation with
    | pursue goal =>
        obtain ⟨sought, haim⟩ := aim_of_prepares hmem
        exact found _ goal ledger target sought haim
    | _ => cases hmem
  induction h with
  | create prefersIpv4 world made => simp
  | ofTransport transport prefersIpv4 world receive made => simp
  | ofConfig config world made => simp
  | toHost host port prefersIpv4 world create made => exact hprepares _ _
  | toEndpoint endpoint prefersIpv4 world create made => exact hprepares _ _
  | step reached operation ih =>
      intro target hmem
      rcases List.mem_append.mp hmem with hmem | hmem
      · exact ih target hmem
      · exact hprepares _ _ target hmem

end Reachable

/-- Every request that is recorded is for the stop of its proxy on the way to a target.  This is
what every operation keeps, with its own target among the others. -/
def AsksFor (route : Route π) (targets : List Address) (ledger : Ledger ω ν) : Prop :=
  ∀ stop hop, (stop, hop) ∈ ledger.requests →
    ∃ target ∈ targets, (route.stops target)[hop]? = some stop

namespace AsksFor

variable {targets : List Address} {ledger later : Ledger ω ν}

theorem of_eq (h : AsksFor route targets ledger) (heq : later.requests = ledger.requests) :
    AsksFor route targets later := by
  simpa only [AsksFor, heq] using h

theorem pursue (h : AsksFor route targets ledger) (hroute : tunnel.route = route.numbered)
    (goal : Goal) :
    AsksFor route
      (targets ++ (prepares (env.recorded note) tunnel (.pursue goal) ledger).toList)
      (Tunnel.pursue (env.recorded note) tunnel goal ledger).2.2 := by
  have hpursued := pursue_requests env note hroute goal ledger
  generalize prepares (env.recorded note) tunnel (.pursue goal) ledger = prepared at hpursued ⊢
  generalize Tunnel.pursue (env.recorded note) tunnel goal ledger = result at hpursued ⊢
  cases hpursued with
  | unready not_done destination requests => simpa using h.of_eq requests
  | @ready target _ _ later count destination requests whole =>
      intro stop hop hmem
      rw [requests] at hmem
      rcases List.mem_append.mp hmem with hmem | hmem
      · obtain ⟨earlier, hearlier, hstop⟩ := h stop hop hmem
        exact ⟨earlier, List.mem_append_left _ hearlier, hstop⟩
      · exact ⟨target, by simp, Route.getElem?_of_mem_zipIdx hmem⟩

/-- Every operation: an attempt asks for stops on the way to its own target, and nothing else asks
anybody. -/
theorem step (h : AsksFor route targets ledger) (hroute : tunnel.route = route.numbered)
    (operation : Operation ω τ ρ) :
    AsksFor route
      (targets ++ (prepares (env.recorded note) tunnel operation.recorded ledger).toList)
      (step (env.recorded note) tunnel operation.recorded ledger).2 := by
  have hpreparing := env.recorded_respects_requests note
  have hquiet {later : Ledger ω ν} (heq : later.requests = ledger.requests) :
      AsksFor route (targets ++ Option.toList none) later := by
    simpa using h.of_eq heq
  cases operation with
  | pursue goal => exact h.pursue hroute goal
  | close => exact hquiet (respects_close hpreparing _ _)
  | perform action => exact hquiet (respects_perform hpreparing _ action _)
  | locate => exact hquiet (respects_destinationIp hpreparing.toRespectsLookups _ _)
  | lend use =>
      refine hquiet ?_
      simp only [Tunnel.step, Operation.recorded, Tunnel.lend]
      cases tunnel.transport <;> rfl
  | setResolver resolver => exact hquiet rfl

/-- A ledger in which nobody is asked. -/
theorem nothing (h : ledger.requests = []) : AsksFor route targets ledger := by
  simp [AsksFor, h]

/-- A new tunnel that is connected at once. -/
theorem made {goal : Goal} {prefersIpv4 : Bool} {world : ω}
    {new after : Tunnel (Numbered τ) (Numbered π) ρ} {start : Ledger ω ν}
    (hcreate : create (env.recorded note) route.numbered prefersIpv4 (.start world) = (new, start))
    (hpursue : Tunnel.pursue (env.recorded note) new goal start = (.done (), after, later)) :
    AsksFor route (prepares (env.recorded note) new (.pursue goal) start).toList later := by
  have hstart := respects_create (env.recorded_respects_requests note) route.numbered prefersIpv4
    (.start world)
  rw [hcreate] at hstart
  have hroute : new.route = route.numbered := by
    obtain ⟨rfl, -⟩ := by simpa [create] using hcreate
    rfl
  have hasks : AsksFor route [] start := nothing hstart
  have hafter : AsksFor route
      ([] ++ (prepares (env.recorded note) new (.pursue goal) start).toList)
      (Tunnel.pursue (env.recorded note) new goal start).2.2 := hasks.pursue hroute goal
  rwa [hpursue] at hafter

end AsksFor

/-- **Whatever was done with a tunnel, proxies were asked for stops on the way to its targets
only.**  The induction is on the run; some of the ways to make a tunnel are an attempt already. -/
theorem Reachable.asksFor {targets : List Address} {ledger : Ledger ω ν}
    (h : Reachable env note route targets tunnel ledger) : AsksFor route targets ledger := by
  have hpreparing := env.recorded_respects_requests note
  induction h with
  | create prefersIpv4 world made =>
      have hmade := respects_create hpreparing route.numbered prefersIpv4 (.start world)
      rw [made] at hmade
      exact .nothing hmade
  | ofTransport transport prefersIpv4 world receive made =>
      obtain ⟨-, rfl⟩ := by simpa [Ledger.receive] using receive
      exact .nothing rfl
  | ofConfig config world made =>
      have hmade := respects_ofConfig hpreparing route.numbered config (.start world)
      rw [made] at hmade
      exact .nothing hmade
  | toHost host port prefersIpv4 world create made =>
      unfold Tunnel.toHost at made
      rw [create] at made
      exact .made create (pursue_of_made made)
  | toEndpoint endpoint prefersIpv4 world create made =>
      unfold Tunnel.toEndpoint at made
      rw [create] at made
      exact .made create (pursue_of_made made)
  | step reached operation ih => exact ih.step reached.established.route_eq operation

end Tunnel

end RelayRoute
