import RelayRoute.Proofs.Dials
import RelayRoute.Proofs.Transports

/-!
# How long dials may take

A transport that a tunnel creates is told the limit of the configuration.  An attempt at an endpoint
tells the transport a limit of its own right before the dial; an attempt at a host tells it nothing.
Nobody takes the limit of an endpoint back: it stays with the transport, and a transport that could
not be dialed is kept.  The next attempt at a host dials it with a limit that was meant for another
dial.

* `Call.limits`, `Call.latestLimit` — the limits that a transport was told, read off the calls of a
  run;
* `Environment.Timed` — transports on which a limit stays as it was told; those of a rehearsal are
  of this kind (`Scripted.environment_timed`);
* `Limited` — what every operation keeps, as long as the caller sets no limits: the transport that
  is held has the limit it was told last;
* `Limited.pursue`, `Limited.step`, `Limited.run` — an attempt, an operation and a run keep it;
* `dials_find_limits` — the limits that the dials of a run find, and `limit_outlives_attempt` a run
  in which this is not the one that was configured.
-/

namespace RelayRoute

variable {ω τ π ρ ν : Type}

namespace Call

/-- The limit that a call tells the transport with number `n`, if it tells one. -/
def limit? (n : Nat) : Call → Option (Option Duration)
  | .perform m (.setTimeout limit) _ => if m = n then some limit else none
  | _ => none

/-- The limits that the transport with number `n` was told, earliest first. -/
def limits (n : Nat) (calls : List Call) : List (Option Duration) :=
  calls.filterMap (limit? n)

/-- The limit that the transport with number `n` was told last; `initial` if it was told none. -/
def latestLimit (n : Nat) (initial : Option Duration) (calls : List Call) : Option Duration :=
  (limits n calls).getLastD initial

/-- Limits are told in the order of the calls. -/
theorem limits_append (n : Nat) (first second : List Call) :
    limits n (first ++ second) = limits n first ++ limits n second :=
  List.filterMap_append

/-- Only something that is done with a transport tells it a limit. -/
theorem limit?_of_performed {n : Nat} {call : Call} (h : call.performed? = none) :
    call.limit? n = none := by
  cases call with
  | perform m action reply => cases h
  | _ => rfl

/-- Calls that tell a transport nothing. -/
theorem limits_eq_nil {n : Nat} {calls : List Call} (h : ∀ call ∈ calls, call.limit? n = none) :
    limits n calls = [] :=
  List.filterMap_eq_nil_iff.mpr h

/-- Calls that tell a transport nothing leave the latest limit as it is. -/
theorem latestLimit_append {n : Nat} {initial : Option Duration} {calls made : List Call}
    (h : ∀ call ∈ made, call.limit? n = none) :
    latestLimit n initial (calls ++ made) = latestLimit n initial calls := by
  rw [latestLimit, limits_append, limits_eq_nil h, List.append_nil, latestLimit]

/-- An action that is not about the limit tells none. -/
theorem limit?_perform {n m : Nat} {action : Action} (other : ∀ limit, action ≠ .setTimeout limit)
    (reply : action.Reply) : (perform m action reply).limit? n = none := by
  cases action with
  | setTimeout limit => exact absurd rfl (other limit)
  | _ => rfl

/-- Making settings tells no limit. -/
theorem limits_making (n m : Nat) (tried : List (Setting × Except IoFault Unit)) :
    limits n (making m tried) = [] := by
  refine limits_eq_nil fun call hcall => ?_
  obtain ⟨setting, -, rfl⟩ := List.mem_map.mp hcall
  exact limit?_perform (by simp) _

/-- Limiting the dials of a transport tells that transport, and no other one. -/
theorem limits_limiting (n m : Nat) (limit : Option (Option Duration)) :
    limits n (limiting m limit) = if m = n then limit.toList else [] := by
  cases limit with
  | none => by_cases h : m = n <;> simp [limits, limiting]
  | some limit => by_cases h : m = n <;> simp [limits, limiting, limit?, h]

end Call

/-- Setting a transport up tells that transport the limit of the configuration, whether all settings
can be made or not. -/
theorem SetUp.limits {n m : Nat} {timeout : Option Duration} {settings : List Setting}
    {made : List Call} {reply : Except IoFault Unit} (h : SetUp m timeout settings made reply) :
    Call.limits n made = if m = n then timeout.toList.map some else [] := by
  obtain ⟨tried, -, rfl⟩ := h
  rw [Call.limits_append, Call.limits_making, Call.limits_limiting, List.append_nil]
  cases timeout <;> rfl

namespace Environment

/-- How long a dial over a transport may take is a matter of the transport alone: it is what the
transport was told last, and nothing else that is done with it has a say in it. -/
structure Timed (env : Environment ω τ π ρ) : Prop where
  own (transport : τ) (earlier later : ω) :
    env.observe .timeout transport later = env.observe .timeout transport earlier
  setTimeout (limit : Option Duration) (transport : τ) (world : ω) :
    env.observe .timeout (env.perform (.setTimeout limit) transport world).2.1
      (env.perform (.setTimeout limit) transport world).2.2 = limit
  perform (action : Action) (other : ∀ limit, action ≠ .setTimeout limit) (transport : τ)
    (world : ω) : env.observe .timeout (env.perform action transport world).2.1
      (env.perform action transport world).2.2 = env.observe .timeout transport world
  dial (proxy : Proxy π) (transport : τ) (world : ω) :
    env.observe .timeout (env.dial proxy transport world).2.2.1
      (env.dial proxy transport world).2.2.2 = env.observe .timeout transport world
  request (proxy : Proxy π) (target : Address) (transport : τ) (world : ω) :
    env.observe .timeout (env.request proxy target transport world).2.2.1
      (env.request proxy target transport world).2.2.2 = env.observe .timeout transport world

namespace Timed

variable {env : Environment ω τ π ρ} (h : env.Timed)

include h

/-- A transport carries its limit along. -/
theorem carries (limit : Option Duration) :
    env.Carries fun transport world => env.observe .timeout transport world = limit where
  log _ _ _ hlimit := (h.own _ _ _).trans hlimit
  lookup _ _ _ _ hlimit := (h.own _ _ _).trans hlimit
  markReached _ _ _ hlimit := (h.own _ _ _).trans hlimit
  request proxy target _ _ hlimit := (h.request proxy target _ _).trans hlimit

/-- Making settings leaves the limit alone. -/
theorem makeEach (settings : List Setting) (transport : τ) (world : ω) :
    env.observe .timeout (env.makeEach settings transport world).2.1
      (env.makeEach settings transport world).2.2 = env.observe .timeout transport world := by
  induction settings generalizing transport world with
  | nil => rfl
  | cons setting settings ih =>
      have hset := h.perform (.set setting) (by simp) transport world
      unfold Environment.makeEach
      generalize env.perform (.set setting) transport world = result at hset ⊢
      obtain ⟨reply, carried, set⟩ := result
      cases reply with
      | ok _ => exact (ih carried set).trans hset
      | error fault => exact hset

/-- Setting a transport up gives it the limit of the configuration. -/
theorem setUp (limit : Duration) (settings : Settings) (transport : τ) (world : ω) :
    env.observe .timeout (env.setUp (some limit) settings transport world).2.1
      (env.setUp (some limit) settings transport world).2.2 = some limit :=
  (h.makeEach settings.toList _ _).trans (h.setTimeout (some limit) transport world)

/-- Keeping a ledger changes nothing. -/
theorem recorded (note : τ → ω → ν) : (env.recorded note).Timed where
  own transport earlier later := h.own transport.value earlier.world later.world
  setTimeout limit transport ledger := h.setTimeout limit transport.value ledger.world
  perform action other transport ledger := h.perform action other transport.value ledger.world
  dial proxy transport ledger :=
    h.dial ⟨proxy.address, proxy.state.value⟩ transport.value ledger.world
  request proxy target transport ledger :=
    h.request ⟨proxy.address, proxy.state.value⟩ target transport.value ledger.world

end Timed

end Environment

namespace Scripted

/-- The dials of a transport of a rehearsal stay limited as they are, unless it is told otherwise.
-/
theorem lasting_timeout (limit : Option Duration) :
    Lasting fun carrier => ∀ stage, carrier.observe .timeout stage = limit where
  perform action other {carrier} stage hlimit stage' := by
    have hbefore := hlimit stage
    cases carrier with
    | scripted puppet =>
        show (puppet.perform action stage).2.1.observe .timeout = limit
        rw [Puppet.observe_timeout, (puppet.perform_frame action stage).2 other,
          ← Puppet.observe_timeout]
        exact hbefore
    | isolated tcp => exact (Tcp.timeout_perform isolation other tcp stage).trans hbefore
  close {carrier} stage hlimit stage' := by
    have hbefore := hlimit stage
    cases carrier with
    | scripted puppet =>
        show (puppet.close stage).2.1.observe .timeout = limit
        rw [Puppet.observe_timeout]
        unfold Puppet.close
        cases puppet.permit "close" <;> exact puppet.observe_timeout ▸ hbefore
    | isolated tcp => exact hbefore

/-- Dialing a transport of a rehearsal leaves its limit alone. -/
theorem Carrier.timeout_connect (host : String) (port : UInt16) (carrier : Carrier)
    (stage earlier later : Stage) :
    (carrier.connect host port stage).2.1.observe .timeout later =
      carrier.observe .timeout earlier := by
  cases carrier with
  | scripted puppet =>
      have hpuppet : (puppet.connect host port stage).2.1.timeout = puppet.timeout := by
        unfold Puppet.connect
        dsimp only
        split
        · rfl
        · split <;> rfl
      show Carrier.observe .timeout _ later = puppet.observe .timeout
      rw [puppet.observe_timeout, ← hpuppet, ← Puppet.observe_timeout]
      unfold Carrier.connect
      dsimp only
      generalize puppet.connect host port stage = result
      obtain ⟨reply, connected, stage'⟩ := result
      cases reply <;> rfl
  | isolated tcp =>
      show (Tcp.connect isolation host port tcp stage).2.1.timeout = tcp.timeout
      rw [Tcp.connect_frame]

theorem environment_timed : environment.Timed where
  own carrier _ _ := by cases carrier <;> rfl
  setTimeout limit carrier stage := by
    cases carrier with
    | scripted puppet =>
        show (puppet.perform (.setTimeout limit) stage).2.1.observe .timeout = limit
        rw [Puppet.observe_timeout]
        unfold Puppet.perform
        split
        · rfl
        · rfl
        · rename_i hoptionless _
          cases hoptionless
    | isolated tcp => rfl
  perform action other carrier stage :=
    (lasting_timeout _).perform action other stage (fun _ => by cases carrier <;> rfl) _
  dial proxy carrier stage := by
    have husual := Carrier.timeout_connect proxy.address.host.text proxy.address.port carrier stage
    obtain ⟨address, state⟩ := proxy
    cases state with
    | line => exact husual _ _
    | scripted script asked =>
        show Carrier.observe .timeout (Hop.dial _ carrier stage).2.2.1 _ = _
        unfold Hop.dial
        dsimp only
        split
        · exact husual _ _
        all_goals cases carrier <;> rfl
  request proxy target carrier stage := by
    have hbefore (later : Stage) :
        carrier.observe .timeout later = environment.observe .timeout carrier stage := by
      cases carrier <;> rfl
    exact (lasting_timeout _).carries.request proxy target hbefore _

end Scripted

namespace Tunnel

/-- An operation by which the caller sets no limit, neither through the tunnel nor on the transport
that is lent. -/
def Operation.SparesLimit (env : Environment ω τ π ρ) : Operation ω τ ρ → Prop
  | .perform action => ∀ limit, action ≠ .setTimeout limit
  | .lend use => ∀ transport world,
    env.observe .timeout (use transport world).1 (use transport world).2 =
      env.observe .timeout transport world
  | _ => True

/-! ## The limit of the transport that is held -/

/-- A tunnel whose transports start with a limit holds one that has the limit it was told last.
Whatever else a transport was told is among the limits `told` to the tunnel. -/
structure Limited (env : Environment ω τ π ρ) (initial : Option Duration)
    (told : Option Duration → Prop) (held : Option (Numbered τ)) (ledger : Ledger ω ν) : Prop where
  held_eq {transport : Numbered τ} : held = some transport →
    env.observe .timeout transport.value ledger.world =
      Call.latestLimit transport.number initial ledger.calls
  held_lt {transport : Numbered τ} : held = some transport → transport.number < ledger.next
  unseen {n : Nat} : ledger.next ≤ n → Call.limits n ledger.calls = []
  mem {n : Nat} {limit : Option Duration} : limit ∈ Call.limits n ledger.calls →
    limit = initial ∨ told limit

namespace Limited

variable {env : Environment ω τ π ρ} {note : τ → ω → ν} {initial : Option Duration}
  {told : Option Duration → Prop} {held : Option (Numbered τ)} {ledger later : Ledger ω ν}

/-- No transport is held any longer. -/
theorem drop (h : Limited env initial told held ledger) :
    Limited env initial told none ledger where
  held_eq hheld := by cases hheld
  held_lt hheld := by cases hheld
  unseen := h.unseen
  mem := h.mem

/-- Something else is done than telling limits, with the transport that is held or without it.  The
transport that is held after it is the one that was held before, with the same limit. -/
theorem carry (h : Limited env initial told held ledger) {carried : Option (Numbered τ)}
    (hcarried : ∀ transport, carried = some transport → ∃ earlier, held = some earlier ∧
      transport.number = earlier.number ∧
      env.observe .timeout transport.value later.world =
        env.observe .timeout earlier.value ledger.world)
    {made : List Call} (hcalls : later.calls = ledger.calls ++ made)
    (hquiet : ∀ n, ∀ call ∈ made, call.limit? n = none) (hnext : ledger.next ≤ later.next) :
    Limited env initial told carried later where
  held_eq {transport} hheld := by
    obtain ⟨earlier, hearlier, hnumber, hlimit⟩ := hcarried transport hheld
    rw [hlimit, h.held_eq hearlier, hnumber, hcalls, Call.latestLimit_append (hquiet _)]
  held_lt {transport} hheld := by
    obtain ⟨earlier, hearlier, hnumber, -⟩ := hcarried transport hheld
    have hlt := h.held_lt hearlier
    omega
  unseen {n} hn := by
    rw [hcalls, Call.limits_append, h.unseen (Nat.le_trans hnext hn),
      Call.limits_eq_nil (hquiet n), List.nil_append]
  mem {n limit} hlimit := by
    rw [hcalls, Call.limits_append, Call.limits_eq_nil (hquiet n), List.append_nil] at hlimit
    exact h.mem hlimit

/-- Something else is done than telling limits, and not with the transport that is held. -/
theorem idle (h : Limited env initial told held ledger) (htimed : env.Timed) {made : List Call}
    (hcalls : later.calls = ledger.calls ++ made)
    (hquiet : ∀ n, ∀ call ∈ made, call.limit? n = none) (hnext : ledger.next ≤ later.next) :
    Limited env initial told held later :=
  h.carry (fun transport hheld => ⟨transport, hheld, rfl, htimed.own _ _ _⟩) hcalls hquiet hnext

/-- A transport is created and told the limit of the configuration; it need not be held then.  It is
the only one that was told something, and it is new, so that it was told what it starts with. -/
theorem create {limit : Duration} (h : Limited env (some limit) told held ledger)
    (htimed : env.Timed) {before made : List Call} {settings : List Setting}
    {reply : Except IoFault Unit} {after : Option (Numbered τ)}
    (hbefore : ∀ call ∈ before, call.performed? = none)
    (hset : SetUp ledger.next (some limit) settings made reply)
    (hcalls : later.calls = ledger.calls ++ (before ++ .create ledger.next :: made))
    (hnext : ledger.next < later.next)
    (hafter : ∀ transport, after = some transport → held = some transport ∨
      transport.number = ledger.next ∧
        env.observe .timeout transport.value later.world = some limit) :
    Limited env (some limit) told after later ∧
      ∀ n, Call.latestLimit n (some limit) later.calls =
        Call.latestLimit n (some limit) ledger.calls := by
  have hlimits (n : Nat) : Call.limits n later.calls =
      Call.limits n ledger.calls ++ if ledger.next = n then [some limit] else [] := by
    have hmade : Call.limits n (.create ledger.next :: made) = Call.limits n made := rfl
    rw [hcalls, Call.limits_append, Call.limits_append,
      Call.limits_eq_nil fun call hcall => Call.limit?_of_performed (hbefore call hcall), hmade,
      hset.limits, List.nil_append]
    rfl
  have hlatest (n : Nat) : Call.latestLimit n (some limit) later.calls =
      Call.latestLimit n (some limit) ledger.calls := by
    rw [Call.latestLimit, Call.latestLimit, hlimits]
    by_cases hn : ledger.next = n
    · rw [if_pos hn, h.unseen (Nat.le_of_eq hn)]
      rfl
    · rw [if_neg hn, List.append_nil]
  refine ⟨⟨fun {transport} hheld => ?_, fun {transport} hheld => ?_, fun {n} hn => ?_,
    fun {n told'} hmem => ?_⟩, hlatest⟩
  · rw [hlatest]
    rcases hafter transport hheld with hkept | ⟨hnumber, hlimit⟩
    · rw [htimed.own _ ledger.world, h.held_eq hkept]
    · rw [hlimit, Call.latestLimit, h.unseen (Nat.le_of_eq hnumber.symm)]
      rfl
  · rcases hafter transport hheld with hkept | ⟨hnumber, -⟩
    · exact Nat.lt_trans (h.held_lt hkept) hnext
    · omega
  · rw [hlimits, if_neg (by omega), List.append_nil]
    exact h.unseen (by omega)
  · rw [hlimits] at hmem
    rcases List.mem_append.mp hmem with hmem | hmem
    · exact h.mem hmem
    · by_cases hn : ledger.next = n
      · rw [if_pos hn] at hmem
        exact .inl (List.mem_singleton.mp hmem)
      · rw [if_neg hn] at hmem
        cases hmem

variable {tunnel : Tunnel (Numbered τ) (Numbered π) ρ} {limit : Duration}

/-- A new transport, or an attempt to set one up.  Either the transport that is held now is the one
that was set up, or it could not be set up and is not held. -/
theorem renew {vacant renewed : Tunnel (Numbered τ) (Numbered π) ρ} {started : Ledger ω ν}
    {reply : Except Failure (Numbered τ)}
    (h : Limited env (some limit) told tunnel.transport ledger) (htimed : env.Timed)
    (htimeout : tunnel.timeout = some limit)
    (hvacated : Vacated (env.recorded note) tunnel ledger vacant started)
    (hrenew : Tunnel.renew (env.recorded note) vacant started = (reply, renewed, later)) :
    Limited env (some limit) told renewed.transport later ∧
      ∀ n, Call.latestLimit n (some limit) later.calls =
        Call.latestLimit n (some limit) ledger.calls := by
  have hset := (htimed.recorded note).setUp limit vacant.settings
    ((env.recorded note).create vacant.route.head started).1
    ((env.recorded note).create vacant.route.head started).2
  have hlimit : vacant.timeout = some limit := by rw [hvacated.changes, ← htimeout]
  obtain ⟨before, made, hcalls, hbefore, hlt, hrenewed⟩ := hvacated.renewed_calls hrenew
  have hplain : ∀ call ∈ before, call.performed? = none := by
    intro call hcall
    obtain ⟨n, reply, rfl⟩ := hbefore call hcall
    rfl
  rw [htimeout] at hrenewed
  rcases hrenewed with ⟨transport, rfl, hnumber, holds, hsetUp⟩ | ⟨fault, rfl, hkept, hsetUp⟩
  · refine h.create htimed hplain hsetUp hcalls hlt fun held hheld => .inr ?_
    obtain rfl := Option.some.inj (holds.symm.trans hheld)
    refine ⟨hnumber, ?_⟩
    simp only [Tunnel.renew, hlimit] at hrenew
    generalize (env.recorded note).setUp (some limit) vacant.settings _ _ = result at hset hrenew
    obtain ⟨set, carried, finished⟩ := result
    cases set with
    | error fault => simp at hrenew
    | ok _ =>
        obtain ⟨rfl, -, rfl⟩ := by simpa using hrenew
        exact hset
  · exact h.create htimed hplain hsetUp hcalls hlt fun held hheld => .inl (hkept held hheld)

/-- Making a tunnel ready.  The transport that it holds is kept, and nothing is told it, or another
one is set up in its place. -/
theorem ready {prepared : Tunnel (Numbered τ) (Numbered π) ρ} {reply : Except Failure (Numbered τ)}
    (h : Limited env (some limit) told tunnel.transport ledger) (htimed : env.Timed)
    (htimeout : tunnel.timeout = some limit)
    (hready : Tunnel.ready (env.recorded note) tunnel ledger = (reply, prepared, later)) :
    Limited env (some limit) told prepared.transport later ∧
      ∀ n, Call.latestLimit n (some limit) later.calls =
        Call.latestLimit n (some limit) ledger.calls := by
  have hreadied := readied (env.recorded note) tunnel ledger
  generalize Tunnel.ready (env.recorded note) tunnel ledger = result at hreadied hready
  cases hreadied with
  | refused unfinished =>
      obtain ⟨-, rfl, rfl⟩ := by simpa using hready
      exact ⟨h, fun n => rfl⟩
  | kept idle holds unconnected unclosed =>
      obtain ⟨-, rfl, rfl⟩ := by simpa using hready
      exact ⟨h, fun n => rfl⟩
  | @unreleased old carried fault world' connected holds closes =>
      obtain ⟨-, rfl, rfl⟩ := by simpa using hready
      have hcalls := env.calls_close note old ledger
      rw [closes] at hcalls
      have hnext : world'.next = ledger.next := by
        obtain ⟨-, -, rfl⟩ := by simpa [Environment.recorded] using closes
        rfl
      have hquiet (n : Nat) : ∀ call ∈ [Call.close old.number
          (env.close old.value ledger.world).1], call.limit? n = none := by
        simp [Call.limit?]
      exact ⟨h.drop.idle htimed hcalls hquiet (Nat.le_of_eq hnext.symm), fun n => by
        rw [hcalls, Call.latestLimit_append (hquiet n)]⟩
  | renewed vacated => exact h.renew htimed htimeout vacated hready

/-- Limiting a dial.  Without a limit to set, the transport has the one it was told last; otherwise
it is told that one, and has it from then on. -/
theorem tell {transport limited : Numbered τ} {next : Option (Option Duration)}
    (h : Limited env initial told (some transport) ledger) (htimed : env.Timed)
    (htold : ∀ limit, next = some limit → told limit)
    (hlimit : limitDial (env.recorded note) next transport ledger = (limited, later)) :
    Limited env initial told (some limited) later ∧
      env.observe .timeout limited.value later.world =
        next.getD (Call.latestLimit transport.number initial ledger.calls) := by
  cases next with
  | none =>
      obtain ⟨rfl, rfl⟩ := by simpa [limitDial] using hlimit
      exact ⟨h, h.held_eq rfl⟩
  | some told' =>
      have hcalls := env.calls_perform note (.setTimeout told') transport ledger
      have hset := htimed.setTimeout told' transport.value ledger.world
      simp only [limitDial] at hlimit
      have hvalue : env.observe .timeout limited.value later.world = told' := by
        obtain ⟨rfl, rfl⟩ := by simpa [Environment.recorded] using hlimit
        exact hset
      have hnumber : limited.number = transport.number ∧ later.next = ledger.next := by
        obtain ⟨rfl, rfl⟩ := by simpa [Environment.recorded] using hlimit
        exact ⟨rfl, rfl⟩
      rw [hlimit] at hcalls
      dsimp only at hcalls
      have hlimits (n : Nat) : Call.limits n later.calls =
          Call.limits n ledger.calls ++ if transport.number = n then [told'] else [] := by
        rw [hcalls, Call.limits_append]
        by_cases hn : transport.number = n <;> simp [Call.limits, Call.limit?, hn]
      refine ⟨⟨fun {held} hheld => ?_, fun {held} hheld => ?_, fun {n} hn => ?_,
        fun {n limit} hmem => ?_⟩, hvalue⟩
      · obtain rfl : limited = held := Option.some.inj hheld
        rw [hvalue, Call.latestLimit, hlimits, if_pos hnumber.1.symm]
        simp
      · obtain rfl : limited = held := Option.some.inj hheld
        rw [hnumber.1, hnumber.2]
        exact h.held_lt rfl
      · have hlt := h.held_lt rfl
        rw [hlimits, if_neg (by omega), List.append_nil]
        exact h.unseen (by omega)
      · rw [hlimits] at hmem
        rcases List.mem_append.mp hmem with hmem | hmem
        · exact h.mem hmem
        · by_cases hn : transport.number = n
          · rw [if_pos hn] at hmem
            obtain rfl := List.mem_singleton.mp hmem
            exact .inr (htold _ rfl)
          · rw [if_neg hn] at hmem
            cases hmem

theorem lookUp (h : Limited env initial told held ledger) (htimed : env.Timed)
    (hlookups : ledger.OnlyLookups later) (hnext : later.next = ledger.next) :
    Limited env initial told held later := by
  obtain ⟨made, hmade, honly⟩ := hlookups
  exact h.idle htimed hmade
    (fun n call hcall => Call.limit?_of_performed (honly call hcall).performed)
    (Nat.le_of_eq hnext.symm)

/-- Finding the address of an attempt, and copying the route. -/
theorem aim {goal : Goal} {aimed : Ending Failure Address} {sought : Ledger ω ν}
    (h : Limited env initial told held ledger) (htimed : env.Timed)
    (haim : Tunnel.aim (env.recorded note) tunnel goal ledger = (aimed, sought)) :
    Limited env initial told held sought ∧
      Limited env initial told held ((env.recorded note).copyRoute tunnel.route sought).2 ∧
      ∀ n, Call.latestLimit n initial
        ((env.recorded note).copyRoute tunnel.route sought).2.calls =
          Call.latestLimit n initial ledger.calls := by
  have hlookups := respects_aim (env.recorded_respects_onlyLookups note) tunnel goal ledger
  have hnext := respects_aim (env.recorded_respects_next note) tunnel goal ledger
  rw [haim] at hlookups hnext
  have hsought := h.lookUp htimed hlookups hnext
  have hcopied := (env.recorded_respects_onlyLookups note).copyRoute tunnel.route sought
  refine ⟨hsought, hsought.lookUp htimed hcopied (env.next_copyRoute note _ _), fun n => ?_⟩
  obtain ⟨made, hmade, honly⟩ := hlookups
  rw [env.calls_copyRoute, hmade, Call.latestLimit_append]
  exact fun call hcall => Call.limit?_of_performed (honly call hcall).performed

/-- The transport that a tunnel was made ready with is limited.  What its dial will find is the
limit of the goal, or else the one that it was told last before the attempt. -/
theorem readied {goal : Goal} {target : Address} {sought readied dialing : Ledger ω ν}
    {prepared : Tunnel (Numbered τ) (Numbered π) ρ} {transport limited : Numbered τ}
    (h : Limited env (some limit) told tunnel.transport ledger) (htimed : env.Timed)
    (htimeout : tunnel.timeout = some limit)
    (htold : ∀ limit, goal.limit? = some limit → told limit)
    (is_aimed : Tunnel.aim (env.recorded note) tunnel goal ledger = (.done target, sought))
    (is_ready : Tunnel.ready (env.recorded note) tunnel
      ((env.recorded note).copyRoute tunnel.route sought).2 = (.ok transport, prepared, readied))
    (is_limited : limitDial (env.recorded note) goal.limit? transport readied =
      (limited, dialing)) :
    Limited env (some limit) told (some limited) dialing ∧
      env.observe .timeout limited.value dialing.world =
        goal.limit?.getD (Call.latestLimit transport.number (some limit) ledger.calls) := by
  obtain ⟨-, hstarted, hsame⟩ := h.aim htimed is_aimed
  obtain ⟨hready, hkept⟩ := hstarted.ready htimed htimeout is_ready
  obtain ⟨transport', htransport, hprepared⟩ | ⟨failure, hfailure, -⟩ := ready_changes _ _ is_ready
  rotate_left
  · cases hfailure
  obtain rfl := Except.ok.inj htransport
  rw [hprepared] at hready
  obtain ⟨hlimited, hvalue⟩ := hready.tell htimed htold is_limited
  exact ⟨hlimited, by rw [hvalue, hkept, hsame]⟩

/-- **An attempt keeps the transport that is held limited**, wherever it stops: at the lookup, at a
transport that cannot be set up, at the dial, or at a hop. -/
theorem pursue {route : Route π} {goal : Goal} {ending : Ending Failure Unit}
    {after : Tunnel (Numbered τ) (Numbered π) ρ} (hroute : tunnel.route = route.numbered)
    (h : Limited env (some limit) told tunnel.transport ledger) (htimed : env.Timed)
    (htimeout : tunnel.timeout = some limit)
    (htold : ∀ limit, goal.limit? = some limit → told limit)
    (hpursue : Tunnel.pursue (env.recorded note) tunnel goal ledger = (ending, after, later)) :
    Limited env (some limit) told after.transport later := by
  cases pursuit hroute hpursue with
  | unaimed is_sought none_found => exact (h.aim htimed is_sought).1
  | unready is_aimed is_ready =>
      exact ((h.aim htimed is_aimed).2.1.ready htimed htimeout is_ready).1
  | undialed is_aimed is_ready is_limited connected holds =>
      rw [holds]
      exact (h.readied htimed htimeout htold is_aimed is_ready is_limited).1
  | @dialed _ _ walk _ _ dialing _ _ _ _ limited carried is_aimed is_ready is_limited unconnected
      is_dialed calls walks numbers holds number =>
      have hlimited := (h.readied htimed htimeout htold is_aimed is_ready is_limited).1
      obtain ⟨hdialed, -, -, -, -, carries⟩ := is_dialed
      have hquiet (n : Nat) : ∀ call ∈ walk, call.limit? n = none := fun call hcall =>
        Call.limit?_of_performed (walks.performed hcall)
      rw [holds]
      refine hlimited.carry (fun transport hheld => ⟨limited, rfl, ?_⟩) calls hquiet numbers.le
      obtain rfl : carried = transport := Option.some.inj hheld
      refine ⟨number, carries (htimed.carries _) ?_⟩
      have hdial := htimed.dial route.head limited.value dialing.world
      rwa [hdialed] at hdial

/-- Every operation by which the caller sets no limit.  Attempts come first, and the rest leaves
limits alone or lets go of the transport. -/
theorem step {route : Route π} {operation : Operation ω τ ρ} {after : Option (Numbered τ)}
    (hroute : tunnel.route = route.numbered)
    (h : Limited env (some limit) told tunnel.transport ledger) (htimed : env.Timed)
    (htimeout : tunnel.timeout = some limit)
    (htold : ∀ endpoint limit, operation = .pursue (.endpoint endpoint limit) → told limit)
    (hspares : operation.SparesLimit env)
    (hoperated : Operated env note tunnel ledger operation after later) :
    Limited env (some limit) told after later := by
  cases hoperated with
  | @attempted goal _ _ _ pursued =>
      refine h.pursue hroute htimed htimeout ?_ pursued
      cases goal with
      | host text port => intro limit hlimit; cases hlimit
      | endpoint endpoint limit =>
          intro limit' hlimit'
          obtain rfl : limit = limit' := Option.some.inj hlimit'
          exact htold endpoint limit rfl
  | aside looks_up =>
      exact h.lookUp htimed (looks_up (env.recorded_respects_onlyLookups note))
        (looks_up (env.recorded_respects_next note))
  | @closed held holds =>
      exact h.drop.idle htimed (env.calls_close note held ledger) (by simp [Call.limit?])
        (Nat.le_refl _)
  | @performed held action holds =>
      refine h.carry (fun transport hheld => ⟨held, holds, ?_⟩)
        (env.calls_perform note action held ledger) (by simp [Call.limit?_perform hspares])
        (Nat.le_refl _)
      obtain rfl := Option.some.inj hheld
      exact ⟨rfl, htimed.perform action hspares held.value ledger.world⟩
  | @lent held use holds =>
      refine h.carry (fun transport hheld => ⟨held, holds, ?_⟩) (List.append_nil _).symm (by simp)
        (Nat.le_refl _)
      obtain rfl := Option.some.inj hheld
      exact ⟨rfl, hspares held.value ledger.world⟩

/-- Operations, one after another, by which the caller sets no limit.  The limit of the configuration
is the same before each of them, so each of them is a step. -/
theorem run {route : Route π} (operations : List (Operation ω τ ρ))
    (hroute : tunnel.route = route.numbered)
    (h : Limited env (some limit) told tunnel.transport ledger) (htimed : env.Timed)
    (htimeout : tunnel.timeout = some limit)
    (htold : ∀ endpoint limit, .pursue (.endpoint endpoint limit) ∈ operations → told limit)
    (hspares : ∀ operation ∈ operations, operation.SparesLimit env) :
    Limited env (some limit) told
      (Tunnel.run (env.recorded note) tunnel (operations.map .recorded) ledger).1.transport
      (Tunnel.run (env.recorded note) tunnel (operations.map .recorded) ledger).2 := by
  refine run_preserves
    (P := fun after later => Limited env (some limit) told after.transport later) h ?_
  intro operation hmem between now hkept limited
  have hroute' : between.route = route.numbered := (congrArg Plan.route hkept).trans hroute
  have htimeout' : between.timeout = some limit := (congrArg Plan.timeout hkept).trans htimeout
  exact limited.step hroute' htimed htimeout'
    (fun endpoint limit hpursued => htold endpoint limit (hpursued ▸ hmem))
    (hspares operation hmem) (operated env note between operation now)

theorem ofConfig {route : Route π} {config : Config} {world : ω}
    {new : Tunnel (Numbered τ) (Numbered π) ρ} {start : Ledger ω ν} (htimed : env.Timed)
    (hlimit : config.timeout = some limit)
    (hmade : Tunnel.ofConfig (env.recorded note) route.numbered config (.start world) =
      (.ok new, start)) : Limited env (some limit) told new.transport start := by
  have hempty : Limited env (some limit) told none (Ledger.start world : Ledger ω ν) :=
    ⟨by simp, by simp, fun _ => rfl, by simp [Ledger.start, Ledger.calls, Call.limits]⟩
  have hset := (htimed.recorded note).setUp limit config.settings
    ((env.recorded note).create route.numbered.head (.start world)).1
    ((env.recorded note).create route.numbered.head (.start world)).2
  have hnumbers := respects_ofConfig (env.recorded_respects_numbers note).toRespectsPreparing
    route.numbered config (.start world)
  obtain ⟨made, hcalls, ⟨new', transport, hnew, -, holds, hnumber, hsetUp⟩ | ⟨fault, hfault, -⟩⟩ :=
    ofConfig_calls hmade
  rotate_left
  · cases hfault
  obtain rfl := Except.ok.inj hnew
  rw [hlimit] at hsetUp
  rw [hmade] at hnumbers
  have hbefore : ∀ call ∈ ([] : List Call), call.performed? = none := by simp
  refine (hempty.create htimed hbefore hsetUp hcalls (hnumbers.lt hcalls List.mem_cons_self).2
    fun held hheld => .inr ⟨?_, ?_⟩).1
  · obtain rfl := Option.some.inj (holds.symm.trans hheld)
    exact hnumber
  · simp only [Tunnel.ofConfig, hlimit] at hmade
    generalize (env.recorded note).setUp (some limit) config.settings _ _ = result at hset hmade
    obtain ⟨set, carried, finished⟩ := result
    cases set with
    | error fault => simp at hmade
    | ok _ =>
        obtain ⟨rfl, rfl⟩ := by simpa using hmade
        obtain rfl := Option.some.inj hheld
        exact hset

end Limited

/-! ## The limits that dials find -/

/-- The limit that the dial of an attempt finds: the one of the goal, or the one that the transport
was told last.  What the attempt tells its transport is not among the limits of the ledger, which is
that before the attempt. -/
theorem DialOf.limit {env : Environment ω τ π ρ} {note : τ → ω → ν}
    {tunnel after : Tunnel (Numbered τ) (Numbered π) ρ} {goal : Goal} {ledger : Ledger ω ν}
    {entry : Entry ν} (h : DialOf env note tunnel goal ledger after entry) {limit : Duration}
    {told : Option Duration → Prop} (htimed : env.Timed)
    (hlimited : Limited env (some limit) told tunnel.transport ledger)
    (htimeout : tunnel.timeout = some limit) :
    ∃ n answer transport world noted,
      entry = .call (.dial 0 n answer) (some (note transport world)) (some noted) ∧
      env.observe .timeout transport world =
        goal.limit?.getD (Call.latestLimit n (some limit) ledger.calls) ∧
      (tunnel.number? ≠ some n → Call.limits n ledger.calls = []) := by
  obtain ⟨is_aimed, is_ready, is_limited, -, answer, value, world, -⟩ := h
  rename_i target sought readied dialing prepared transport limited
  have htold : Limited env (some limit) (fun _ => True) tunnel.transport ledger :=
    ⟨hlimited.held_eq, hlimited.held_lt, hlimited.unseen, fun _ => .inr trivial⟩
  obtain ⟨-, hfinds⟩ := htold.readied htimed htimeout (fun _ _ => trivial) is_aimed is_ready
    is_limited
  obtain ⟨hnumber, -⟩ := limitDial_calls is_limited
  refine ⟨limited.number, answer, limited.value, dialing.world, _, rfl, ?_, fun hother => ?_⟩
  · rw [hnumber]
    exact hfinds
  · have hnext := respects_aim (env.recorded_respects_next note) tunnel goal ledger
    rw [is_aimed] at hnext
    obtain ⟨made, -, hreadying⟩ := ready_calls is_ready
    cases hreadying with
    | kept holds => exact absurd (by rw [number?, holds, hnumber]; rfl) hother
    | renewed vacating setUp fresh =>
        refine hlimited.unseen (Nat.le_of_eq ?_)
        rw [hnumber, fresh, env.next_copyRoute, hnext]

/-- **The limits that dials find.**  Take a tunnel with a configured limit, and any operations by
which the caller sets no limit.  The dial of an attempt at an endpoint finds the limit of that
attempt.  The dial of an attempt at a host finds the limit that its transport was told last.  That
is the configured one if the attempt creates the transport; otherwise it is the configured one or
that of an earlier attempt at an endpoint. -/
theorem dials_find_limits {env : Environment ω τ π ρ} (h : env.Timed) (route : Route π)
    (config : Config) {limit : Duration} (hlimit : config.timeout = some limit) (world : ω)
    {new : Tunnel (Numbered τ) (Numbered π) ρ} {start : Ledger ω (Option Duration)}
    (made : ofConfig (env.recorded (env.observe .timeout)) route.numbered config (.start world) =
      (.ok new, start))
    {operations : List (Operation ω τ ρ)}
    (spares : ∀ operation ∈ operations, operation.SparesLimit env) :
    let (tunnel, ledger) :=
      new.run (env.recorded (env.observe .timeout)) (operations.map .recorded) start
    (∀ n, ∀ told ∈ Call.limits n ledger.calls,
      told = some limit ∨ ∃ endpoint, .pursue (.endpoint endpoint told) ∈ operations) ∧
    ∀ goal,
      let (_, _, later) := pursue (env.recorded (env.observe .timeout)) tunnel goal ledger
      ∀ entries, later.entries = ledger.entries ++ entries →
        ∀ hop n answer before after, .call (.dial hop n answer) before after ∈ entries →
          before = some (goal.limit?.getD (Call.latestLimit n (some limit) ledger.calls)) ∧
          (tunnel.number? ≠ some n → Call.limits n ledger.calls = []) := by
  have hstart : Limited env (some limit)
      (fun told => ∃ endpoint, .pursue (.endpoint endpoint told) ∈ operations)
      new.transport start := .ofConfig h hlimit made
  have hplan : new.route = route.numbered ∧ new.timeout = some limit := by
    obtain ⟨-, -, ⟨new', -, hnew, hplan, -⟩ | ⟨fault, hfault, -⟩⟩ := ofConfig_calls made
    · obtain rfl := Except.ok.inj hnew
      exact ⟨congrArg Plan.route hplan, (congrArg Plan.timeout hplan).trans hlimit⟩
    · cases hfault
  have hafter : Limited env (some limit)
      (fun told => ∃ endpoint, .pursue (.endpoint endpoint told) ∈ operations)
      (new.run (env.recorded (env.observe .timeout)) (operations.map .recorded) start).1.transport
      (new.run (env.recorded (env.observe .timeout)) (operations.map .recorded) start).2 :=
    hstart.run operations hplan.1 h hplan.2 (fun endpoint told hmem => ⟨endpoint, hmem⟩) spares
  have hkept := run_plan (env.recorded (env.observe .timeout)) new (operations.map .recorded) start
  generalize new.run (env.recorded (env.observe .timeout)) (operations.map .recorded) start = result
    at hafter hkept
  obtain ⟨tunnel, ledger⟩ := result
  have hroute : tunnel.route = route.numbered := (congrArg Plan.route hkept).trans hplan.1
  have htimeout : tunnel.timeout = some limit := (congrArg Plan.timeout hkept).trans hplan.2
  refine ⟨fun n told htold => hafter.mem htold, fun goal => ?_⟩
  rcases hpursue : pursue (env.recorded (env.observe .timeout)) tunnel goal ledger with
    ⟨ending, after, later⟩
  intro entries hentries hop n answer before noted hdial
  have hdialOf := (pursuit hroute hpursue).dial hentries hdial trivial
  obtain ⟨m, answer', transport, dialed, noted', hentry, hfinds, hnew⟩ :=
    hdialOf.limit h hafter htimeout
  cases hentry
  exact ⟨congrArg some hfinds, hnew⟩

/-- Where the head does not answer, a configured limit of one and a half seconds and one of a
millisecond for an endpoint leave the attempt at a host with what its transport was told last. -/
theorem dials_find_latest_limit :
    let env := Scripted.environment.recorded (Scripted.environment.observe .timeout)
    let route : Route Scripted.Hop := ⟨⟨⟨.v4 ⟨192, 0, 2, 1⟩, 1080⟩, .scripted {} false⟩, []⟩
    let config : Config := { connectTimeout := some 1500 }
    let stage : Scripted.Stage := { scripts := [{ failures := [("connect", .connectionRefused)] }] }
    let brief : Goal := .endpoint (.inet (.v4 ⟨198, 51, 100, 7⟩ 43)) (some (.ofMilliseconds 1))
    ∃ new start, ofConfig env route.numbered config (.start stage) = (.ok new, start) ∧
      let (tunnel, ledger) := new.run env [.pursue brief] start
      let (_, _, later) := pursue env tunnel (.host "198.51.100.8" 43) ledger
      ∃ entries answer before after, later.entries = ledger.entries ++ entries ∧
        .call (.dial 0 0 answer) before after ∈ entries ∧
        before = some (Call.latestLimit 0 (some (.ofMilliseconds 1500)) ledger.calls) := by
  intro env route config stage brief
  refine ⟨_, _, rfl, ?_⟩
  have hlimit : config.timeout = some (.ofMilliseconds 1500) := rfl
  have hspares : ∀ operation ∈ [Operation.pursue brief],
      operation.SparesLimit Scripted.environment := by
    simp [Operation.SparesLimit]
  obtain ⟨-, hdials⟩ :=
    dials_find_limits Scripted.environment_timed route config hlimit stage rfl hspares
  refine ⟨_, _, _, _, rfl, List.mem_cons_of_mem _ List.mem_cons_self, ?_⟩
  exact (hdials (.host "198.51.100.8" 43) _ rfl 0 0 _ _ _
    (List.mem_cons_of_mem _ List.mem_cons_self)).1

/-- The millisecond outlives the attempt that it was meant for: the attempt at a host finds it, and
not the configured limit. -/
theorem limit_outlives_attempt :
    let env := Scripted.environment.recorded (Scripted.environment.observe .timeout)
    let route : Route Scripted.Hop := ⟨⟨⟨.v4 ⟨192, 0, 2, 1⟩, 1080⟩, .scripted {} false⟩, []⟩
    let config : Config := { connectTimeout := some 1500 }
    let stage : Scripted.Stage := { scripts := [{ failures := [("connect", .connectionRefused)] }] }
    let brief : Goal := .endpoint (.inet (.v4 ⟨198, 51, 100, 7⟩ 43)) (some (.ofMilliseconds 1))
    ∃ new start, ofConfig env route.numbered config (.start stage) = (.ok new, start) ∧
      let (ending, tunnel, ledger) := pursue env new brief start
      ending = .failed (.io (.bare .connectionRefused)) ∧
      let (_, _, later) := pursue env tunnel (.host "198.51.100.8" 43) ledger
      ∃ entries answer before after, later.entries = ledger.entries ++ entries ∧
        .call (.dial 0 0 answer) before after ∈ entries ∧
        before = some (some (.ofMilliseconds 1)) ∧ before ≠ some config.timeout := by
  intro env route config stage brief
  refine ⟨_, _, rfl, rfl, _, _, _, _, rfl, List.mem_cons_of_mem _ List.mem_cons_self, rfl, ?_⟩
  decide

end Tunnel

end RelayRoute
