import RelayRoute.Proofs.DialedTransports
import RelayRoute.Proofs.Transports

/-!
# No transport is dialed successfully twice

A dial finds a transport that is neither connected nor closed, and a successful one leaves it
connected.  From then on it is connected or closed, unless the caller puts another one in its place.
So it is not dialed again: the next attempt is refused, or creates another transport.  A transport
that no dial has reached stays as it is, and is retried.

* `Environment.Spends` — transports that a successful dial connects until they are closed, and that
  stay closed; those of a rehearsal are of this kind (`Scripted.plainEnvironment_spends`);
* `Ledger.reached` — the transports that were dialed successfully, read off the calls of a run;
* `Once` — what every operation keeps: they are different, and one that is held is connected or
  closed;
* `Once.dial`, `Once.pursue`, `Once.step`, `Once.run` — a dial, an attempt, an operation and a run
  keep it;
* `dials_idle_transports` — the main result, together with the choice of the transport (`Chosen`).
-/

namespace RelayRoute

variable {ω τ π ρ ν : Type}

namespace Environment

/-- A transport is connected or closed. -/
def Spent (env : Environment ω τ π ρ) (transport : τ) (world : ω) : Prop :=
  env.observe .isConnected transport world = true ∨ env.observe .isClosed transport world = true

/-- An idle transport is not spent. -/
theorem Idle.not_spent {env : Environment ω τ π ρ} {transport : τ} {world : ω}
    (h : env.Idle transport world) : ¬ env.Spent transport world := by
  obtain ⟨hconnected, hclosed⟩ := h
  simp [Spent, hconnected, hclosed]

/-- A successful dial of the head leaves a transport connected until it is closed, and a closed one
stays closed, whatever is called, and also while other things are called than the transport. -/
structure Spends (env : Environment ω τ π ρ) (head : Proxy π) : Prop where
  dial {transport carried : τ} {state : π} {world later : ω}
    (h : env.dial head transport world = (.done (), state, carried, later)) :
    env.Spent carried later
  /-- Calls that are not given the transport. -/
  others : env.Respects fun earlier later =>
    ∀ transport, env.Spent transport earlier → env.Spent transport later
  perform (action : Action) {transport : τ} {world : ω} (h : env.Spent transport world) :
    env.Spent (env.perform action transport world).2.1 (env.perform action transport world).2.2
  request (proxy : Proxy π) (target : Address) {transport : τ} {world : ω}
    (h : env.Spent transport world) :
    env.Spent (env.request proxy target transport world).2.2.1
      (env.request proxy target transport world).2.2.2

/-- A transport carries along that it was dialed. -/
theorem Spends.carries {env : Environment ω τ π ρ} {head : Proxy π} (h : env.Spends head) :
    env.Carries env.Spent where
  log record _ _ hspent := h.others.log record _ _ hspent
  lookup resolver host _ _ hspent := h.others.lookup resolver host _ _ hspent
  markReached proxy _ _ hspent := h.others.markReached proxy _ _ hspent
  request proxy target _ _ hspent := h.request proxy target hspent

end Environment

namespace Scripted

/-- Whether a transport of a rehearsal was connected or closed does not depend on the stage. -/
theorem Carrier.spent_stage {carrier : Carrier} {earlier : Stage}
    (h : environment.Spent carrier earlier) (later : Stage) : environment.Spent carrier later := by
  cases carrier <;> exact h

/-- A transport of a rehearsal that was connected or closed stays so. -/
theorem Carrier.spent_perform (action : Action) {carrier : Carrier} {stage : Stage}
    (h : environment.Spent carrier stage) (later : Stage) :
    environment.Spent (carrier.perform action stage).2.1 later := by
  have hconnected := Carrier.isConnected_perform action carrier stage stage later
  have hclosed := Carrier.isClosed_perform action carrier stage stage later
  exact h.imp hconnected.trans hclosed.trans

/-- So it does if a proxy closes it. -/
theorem lasting_spent : Lasting fun carrier => ∀ stage, environment.Spent carrier stage where
  perform action _ {carrier} stage hspent := Carrier.spent_perform action (hspent stage)
  close {carrier} stage hspent later := by
    cases carrier with
    | isolated tcp => exact .inr rfl
    | scripted puppet =>
        show (puppet.close stage).2.1.observe .isConnected = true ∨
          (puppet.close stage).2.1.observe .isClosed = true
        unfold Puppet.close
        cases puppet.permit "close" with
        | error fault => exact hspent stage
        | ok _ => exact .inr (Puppet.observe_isClosed _)

/-- A transport of a rehearsal that is dialed successfully is connected. -/
theorem Carrier.isConnected_connect {host : String} {port : UInt16} {carrier connected : Carrier}
    {stage later : Stage} (h : carrier.connect host port stage = (.done (), connected, later)) :
    connected.observe .isConnected later = true := by
  cases carrier with
  | scripted puppet =>
      unfold Carrier.connect Puppet.connect at h
      dsimp only at h
      split at h
      · obtain ⟨rfl, -⟩ := by simpa using h
        rename_i hpuppet
        split at hpuppet
        · cases hpuppet
        · split at hpuppet
          · cases hpuppet
          · cases hpuppet
            exact Puppet.observe_isConnected _
      · cases h
  | isolated tcp =>
      unfold Carrier.connect at h
      rcases hdial : Tcp.connect isolation host port tcp stage with ⟨ending, dialed, dialing⟩
      simp only [hdial] at h
      obtain ⟨rfl, rfl, rfl⟩ := by simpa using h
      exact Tcp.isConnected_connect hdial

/-- In a rehearsal a dial spends a transport, if the head of the route dials like any other proxy.
-/
theorem plainEnvironment_spends (second : HopScript) :
    plainEnvironment.Spends (throughTwo second).head where
  dial {carrier dialed state stage later} h := by
    rcases hdial : carrier.connect (throughTwo second).head.address.host.text
      (throughTwo second).head.address.port stage with ⟨ending, connected, dialing⟩
    have hhead : Hop.dial (throughTwo second).head carrier stage =
        (ending, .scripted {} false, connected, dialing) := by
      simp only [Hop.dial, hdial]
      rfl
    obtain ⟨rfl, -, rfl, rfl⟩ := by simpa using hhead.symm.trans h
    exact .inl (Carrier.isConnected_connect hdial)
  others :=
    { refl := fun _ _ => id
      trans := fun h h' transport hspent => h' transport (h transport hspent)
      lookup := fun _ _ _ _ hspent => Carrier.spent_stage hspent _
      log := fun _ _ _ hspent => Carrier.spent_stage hspent _
      perform := fun _ _ _ _ hspent => Carrier.spent_stage hspent _
      close := fun _ _ _ hspent => Carrier.spent_stage hspent _
      create := fun _ _ _ hspent => Carrier.spent_stage hspent _
      dial := fun _ _ _ _ hspent => Carrier.spent_stage hspent _
      markReached := fun _ _ _ hspent => Carrier.spent_stage hspent _
      request := fun _ _ _ _ _ hspent => Carrier.spent_stage hspent _ }
  perform action _ _ hspent := Carrier.spent_perform action hspent _
  request proxy target _ _ hspent :=
    lasting_spent.carries.request proxy target (Carrier.spent_stage hspent) _

end Scripted

/-- The number of the transport that a call has dialed successfully, if it has.  A dial that fails,
or that is given up, reaches nobody. -/
def Call.reached? : Call → Option Nat
  | .dial _ transport (.done _) => some transport
  | _ => none

/-- The numbers of the transports that were dialed successfully. -/
def Ledger.reached (ledger : Ledger ω ν) : List Nat :=
  ledger.calls.filterMap Call.reached?

/-- Looking a host up reaches no transport. -/
theorem Call.IsLookup.reaches_none {call : Call} (h : call.IsLookup) : call.reached? = none := by
  cases call with
  | lookup host ending => rfl
  | _ => cases h

namespace Tunnel

/-- An operation by which the caller does not make a transport idle that was connected or closed. -/
def Operation.KeepsSpent (env : Environment ω τ π ρ) : Operation ω τ ρ → Prop
  | .lend use => ∀ transport world, env.Spent transport world →
    env.Spent (use transport world).1 (use transport world).2
  | _ => True

/-- The transports that were dialed successfully are different, all numbers are given away, and if
the transport that is held is among them, it is connected or closed. -/
structure Once (env : Environment ω τ π ρ) (held : Option (Numbered τ)) (ledger : Ledger ω ν) :
    Prop where
  nodup : ledger.reached.Nodup
  reached_lt {n : Nat} : n ∈ ledger.reached → n < ledger.next
  held_lt {transport : Numbered τ} : held = some transport → transport.number < ledger.next
  spent {transport : Numbered τ} : held = some transport → transport.number ∈ ledger.reached →
    env.Spent transport.value ledger.world

namespace Once

variable {env : Environment ω τ π ρ} {note : τ → ω → ν} {held : Option (Numbered τ)}
  {ledger later : Ledger ω ν}

/-- Calls that reach nobody, after which the same transport is held, or none.  What was dialed
successfully before is all that was, and the transport has not become idle. -/
theorem pass (h : Once env held ledger) {carried : Option (Numbered τ)}
    (hcarried : ∀ transport, carried = some transport → ∃ earlier, held = some earlier ∧
      transport.number = earlier.number ∧
      (env.Spent earlier.value ledger.world → env.Spent transport.value later.world))
    {made : List Call} (hcalls : later.calls = ledger.calls ++ made)
    (hnone : ∀ call ∈ made, call.reached? = none) (hnext : ledger.next ≤ later.next) :
    Once env carried later := by
  have hreached : later.reached = ledger.reached := by
    rw [Ledger.reached, hcalls, List.filterMap_append, List.filterMap_eq_nil_iff.mpr hnone,
      List.append_nil, Ledger.reached]
  refine ⟨hreached ▸ h.nodup, fun {n} hn => ?_, fun {transport} hheld => ?_,
    fun {transport} hheld hn => ?_⟩
  · exact Nat.lt_of_lt_of_le (h.reached_lt (hreached ▸ hn)) hnext
  · obtain ⟨earlier, hearlier, hnumber, -⟩ := hcarried transport hheld
    rw [hnumber]
    exact Nat.lt_of_lt_of_le (h.held_lt hearlier) hnext
  · obtain ⟨earlier, hearlier, hnumber, hspent⟩ := hcarried transport hheld
    rw [hnumber, hreached] at hn
    exact hspent (h.spent hearlier hn)

/-- Calls that reach nobody, after which a new transport is held.  Its number is not below the next
one, so it is not among those that were dialed. -/
theorem renew (h : Once env held ledger) {transport : Numbered τ}
    (hnumber : transport.number = ledger.next) {made : List Call}
    (hcalls : later.calls = ledger.calls ++ made) (hnone : ∀ call ∈ made, call.reached? = none)
    (hnext : ledger.next < later.next) : Once env (some transport) later := by
  have hreached : later.reached = ledger.reached := by
    rw [Ledger.reached, hcalls, List.filterMap_append, List.filterMap_eq_nil_iff.mpr hnone,
      List.append_nil, Ledger.reached]
  refine ⟨hreached ▸ h.nodup, fun {n} hn => ?_, fun {held'} hheld => ?_,
    fun {held'} hheld hn => ?_⟩
  · exact Nat.lt_trans (h.reached_lt (hreached ▸ hn)) hnext
  · obtain rfl := Option.some.inj hheld
    rw [hnumber]
    exact hnext
  · obtain rfl := Option.some.inj hheld
    rw [hreached, hnumber] at hn
    exact absurd (h.reached_lt hn) (Nat.lt_irrefl _)

/-- An idle transport is dialed, and proxies are asked over it.  It was not dialed successfully
before, since it is idle; and if it is dialed successfully now, it is connected or closed after
that, whatever the proxies do. -/
theorem dial {route : Route π} (hspends : env.Spends route.head) {transport carried : Numbered τ}
    (h : Once env (some transport) ledger) (idle : env.Idle transport.value ledger.world)
    (is_dialed : env.Dialed note route transport carried ledger later)
    (number : carried.number = transport.number) (hnext : ledger.next ≤ later.next) :
    Once env (some carried) later := by
  cases is_dialed with
  | @intro answer state value world relays is_dialed undialed calls only_relays kept carries =>
      have hrelays : ∀ call ∈ relays, call.reached? = none := by
        intro call hcall
        cases only_relays call hcall <;> rfl
      by_cases hdone : answer = .done ()
      · have hfresh : transport.number ∉ ledger.reached := fun hn =>
          idle.not_spent (h.spent rfl hn)
        have hlt := Nat.lt_of_lt_of_le (h.held_lt rfl) hnext
        rw [hdone] at is_dialed calls
        have hreached : later.reached = ledger.reached ++ [transport.number] := by
          rw [Ledger.reached, calls, List.filterMap_append,
            List.filterMap_cons_some (f := Call.reached?) rfl,
            List.filterMap_eq_nil_iff.mpr hrelays, Ledger.reached]
        refine ⟨?_, fun {n} hn => ?_, fun {held'} hheld => ?_, fun {held'} hheld hn => ?_⟩
        · rw [hreached, List.nodup_append]
          refine ⟨h.nodup, by simp, fun n hn m hm => ?_⟩
          rintro rfl
          obtain rfl := List.mem_singleton.mp hm
          exact hfresh hn
        · rw [hreached] at hn
          rcases List.mem_append.mp hn with hn | hn
          · exact Nat.lt_of_lt_of_le (h.reached_lt hn) hnext
          · obtain rfl := List.mem_singleton.mp hn
            exact hlt
        · obtain rfl := Option.some.inj hheld
          rw [number]
          exact hlt
        · obtain rfl := Option.some.inj hheld
          exact carries hspends.carries (hspends.dial is_dialed)
      · refine h.pass (fun held' hheld => ⟨transport, rfl, ?_, ?_⟩) calls ?_ hnext
        · obtain rfl := Option.some.inj hheld
          exact number
        · exact fun hspent => absurd hspent idle.not_spent
        · intro call hcall
          rcases List.mem_cons.mp hcall with rfl | hcall
          · cases answer with
            | done _ => exact absurd rfl hdone
            | _ => rfl
          · exact hrelays call hcall

variable {tunnel : Tunnel (Numbered τ) (Numbered π) ρ} {route : Route π}

/-- No transport is held any longer. -/
theorem drop (h : Once env held ledger) : Once env none ledger :=
  ⟨h.nodup, h.reached_lt, by simp, by simp⟩

/-- Something is done that reaches nobody, and not with the transport that is held. -/
theorem idle (h : Once env held ledger)
    (hspent : ∀ transport, env.Spent transport ledger.world → env.Spent transport later.world)
    {made : List Call} (hcalls : later.calls = ledger.calls ++ made)
    (hnone : ∀ call ∈ made, call.reached? = none) (hnext : ledger.next ≤ later.next) :
    Once env held later :=
  h.pass (fun transport hheld => ⟨transport, hheld, rfl, hspent transport.value⟩) hcalls hnone hnext

/-- Making a tunnel ready reaches nobody: it keeps the transport that is held, lets go of it, or
sets another one up. -/
theorem ready {prepared : Tunnel (Numbered τ) (Numbered π) ρ} {reply : Except Failure (Numbered τ)}
    (h : Once env tunnel.transport ledger) (hspends : env.Spends route.head)
    (hready : Tunnel.ready (env.recorded note) tunnel ledger = (reply, prepared, later)) :
    Once env prepared.transport later := by
  have hspent := respects_ready (hspends.others.toRespectsPreparing.recorded note) tunnel ledger
  have hreadied := readied (env.recorded note) tunnel ledger
  rw [hready] at hspent
  generalize Tunnel.ready (env.recorded note) tunnel ledger = result at hreadied hready
  cases hreadied with
  | refused unfinished =>
      obtain ⟨-, rfl, rfl⟩ := by simpa using hready
      exact h
  | kept is_idle holds unconnected unclosed =>
      obtain ⟨-, rfl, rfl⟩ := by simpa using hready
      exact h
  | @unreleased old carried fault _ connected holds closes =>
      obtain ⟨-, rfl, rfl⟩ := by simpa using hready
      have hcalls := env.calls_close note old ledger
      rw [closes] at hcalls
      obtain ⟨-, -, rfl⟩ := by simpa [Environment.recorded] using closes
      exact h.drop.idle hspent hcalls (by simp [Call.reached?]) (Nat.le_refl _)
  | renewed vacated =>
      obtain ⟨before, set, hcalls, hbefore, hlt, hrenewed⟩ := vacated.renewed_calls hready
      have hset {reply : Except IoFault Unit}
          (hsetUp : SetUp ledger.next tunnel.timeout tunnel.settings.toList set reply) :
          ∀ call ∈ before ++ .create ledger.next :: set, call.reached? = none := by
        intro call hcall
        rcases List.mem_append.mp hcall with hcall | hcall
        · obtain ⟨n, closed, rfl⟩ := hbefore call hcall
          rfl
        · rcases List.mem_cons.mp hcall with rfl | hcall
          · rfl
          · obtain ⟨action, reply, rfl⟩ := hsetUp.plain call hcall
            rfl
      rcases hrenewed with ⟨transport, -, hnumber, holds, hsetUp⟩ | ⟨fault, -, hkept, hsetUp⟩
      · rw [holds]
        exact h.renew hnumber hcalls (hset hsetUp) hlt
      · exact h.pass (fun held hheld => ⟨held, hkept held hheld, rfl, hspent held.value⟩) hcalls
          (hset hsetUp) (Nat.le_of_lt hlt)

theorem tell {limit : Option (Option Duration)} {transport limited : Numbered τ}
    (h : Once env (some transport) ledger) (hspends : env.Spends route.head)
    (hlimit : limitDial (env.recorded note) limit transport ledger = (limited, later)) :
    Once env (some limited) later := by
  cases limit with
  | none =>
      obtain ⟨rfl, rfl⟩ := by simpa [limitDial] using hlimit
      exact h
  | some limit =>
      have hcalls := env.calls_perform note (.setTimeout limit) transport ledger
      simp only [limitDial] at hlimit
      rw [hlimit] at hcalls
      obtain ⟨rfl, rfl⟩ := by simpa [Environment.recorded] using hlimit
      refine h.pass (fun held hheld => ⟨transport, rfl, ?_⟩) hcalls (by simp [Call.reached?])
        (Nat.le_refl _)
      obtain rfl := Option.some.inj hheld
      exact ⟨rfl, hspends.perform (.setTimeout limit)⟩

theorem lookUp (h : Once env held ledger)
    (hspent : ∀ transport, env.Spent transport ledger.world → env.Spent transport later.world)
    (hlookups : ledger.OnlyLookups later) (hnext : later.next = ledger.next) :
    Once env held later := by
  obtain ⟨made, hmade, honly⟩ := hlookups
  exact h.idle hspent hmade (fun call hcall => (honly call hcall).reaches_none)
    (Nat.le_of_eq hnext.symm)

/-- Finding the address of an attempt, and copying the route. -/
theorem aim {goal : Goal} {aimed : Ending Failure Address} {sought : Ledger ω ν}
    (h : Once env held ledger) (hspends : env.Spends route.head)
    (haim : Tunnel.aim (env.recorded note) tunnel goal ledger = (aimed, sought)) :
    Once env held sought ∧
      Once env held ((env.recorded note).copyRoute tunnel.route sought).2 := by
  have hlookups := respects_aim (env.recorded_respects_onlyLookups note) tunnel goal ledger
  have hnext := respects_aim (env.recorded_respects_next note) tunnel goal ledger
  have hkeeps := (hspends.others.toRespectsPreparing.recorded note).toRespectsLookups
  have hspent := respects_aim hkeeps tunnel goal ledger
  rw [haim] at hlookups hnext hspent
  have hsought := h.lookUp hspent hlookups hnext
  exact ⟨hsought, hsought.lookUp (hkeeps.copyRoute tunnel.route sought)
    ((env.recorded_respects_onlyLookups note).copyRoute tunnel.route sought)
    (env.next_copyRoute note _ _)⟩

/-- **An attempt keeps** that no transport is dialed successfully twice.  When it is dialed, the
transport is one that no dial has reached, or one that is connected or closed, and only an idle one
is dialed. -/
theorem pursue {goal : Goal} {ending : Ending Failure Unit}
    {after : Tunnel (Numbered τ) (Numbered π) ρ} (hroute : tunnel.route = route.numbered)
    (h : Once env tunnel.transport ledger) (hsettles : env.Settles env.Unclosed)
    (hspends : env.Spends route.head)
    (hpursue : Tunnel.pursue (env.recorded note) tunnel goal ledger = (ending, after, later)) :
    Once env after.transport later := by
  have hbefore {target : Address} {sought readied dialing : Ledger ω ν}
      {prepared : Tunnel (Numbered τ) (Numbered π) ρ} {transport limited : Numbered τ}
      (is_aimed : Tunnel.aim (env.recorded note) tunnel goal ledger = (.done target, sought))
      (is_ready : Tunnel.ready (env.recorded note) tunnel
        ((env.recorded note).copyRoute tunnel.route sought).2 = (.ok transport, prepared, readied))
      (is_limited : limitDial (env.recorded note) goal.limit? transport readied =
        (limited, dialing)) : Once env (some limited) dialing := by
    have hready := (h.aim hspends is_aimed).2.ready hspends is_ready
    obtain ⟨_, heq, hprepared⟩ | ⟨failure, hfailure, -⟩ := ready_changes _ _ is_ready
    · obtain rfl := Except.ok.inj heq
      rw [hprepared] at hready
      exact hready.tell hspends is_limited
    · cases hfailure
  cases pursuit hroute hpursue with
  | unaimed is_sought none_found => exact (h.aim hspends is_sought).1
  | unready is_aimed is_ready => exact (h.aim hspends is_aimed).2.ready hspends is_ready
  | undialed is_aimed is_ready is_limited connected holds =>
      rw [holds]
      exact hbefore is_aimed is_ready is_limited
  | dialed is_aimed is_ready is_limited unconnected is_dialed calls walks numbers holds number =>
      have hunclosed := (hsettles.recorded note).limitDial
        (ready_unclosed (hsettles.recorded note) is_ready) is_limited
      rw [holds]
      exact (hbefore is_aimed is_ready is_limited).dial hspends ⟨unconnected, hunclosed⟩ is_dialed
        number numbers.le

/-- Every operation by which the caller makes no transport idle.  Attempts come first, and the rest
reaches nobody. -/
theorem step {operation : Operation ω τ ρ} {after : Option (Numbered τ)}
    (hroute : tunnel.route = route.numbered) (h : Once env tunnel.transport ledger)
    (hsettles : env.Settles env.Unclosed) (hspends : env.Spends route.head)
    (hkeeps : operation.KeepsSpent env)
    (hoperated : Operated env note tunnel ledger operation after later) :
    Once env after later := by
  have hothers := hspends.others.toRespectsPreparing.recorded note
  cases hoperated with
  | attempted pursued => exact h.pursue hroute hsettles hspends pursued
  | aside looks_up =>
      exact h.lookUp (looks_up hothers.toRespectsLookups)
        (looks_up (env.recorded_respects_onlyLookups note))
        (looks_up (env.recorded_respects_next note))
  | @closed held holds =>
      exact h.drop.idle (hothers.close held ledger) (env.calls_close note held ledger)
        (by simp [Call.reached?]) (Nat.le_refl _)
  | @performed held action holds =>
      refine h.pass (fun transport hheld => ⟨held, holds, ?_⟩)
        (env.calls_perform note action held ledger) (by simp [Call.reached?]) (Nat.le_refl _)
      obtain rfl := Option.some.inj hheld
      exact ⟨rfl, hspends.perform action⟩
  | @lent held use holds =>
      refine h.pass (fun transport hheld => ⟨held, holds, ?_⟩) (List.append_nil _).symm (by simp)
        (Nat.le_refl _)
      obtain rfl := Option.some.inj hheld
      exact ⟨rfl, hkeeps held.value ledger.world⟩

/-- Operations, one after another, by which the caller makes no transport idle.  The route is the
same before each of them, so each of them is a step. -/
theorem run (operations : List (Operation ω τ ρ)) (hroute : tunnel.route = route.numbered)
    (h : Once env tunnel.transport ledger) (hsettles : env.Settles env.Unclosed)
    (hspends : env.Spends route.head)
    (hkeeps : ∀ operation ∈ operations, operation.KeepsSpent env) :
    Once env (Tunnel.run (env.recorded note) tunnel (operations.map .recorded) ledger).1.transport
      (Tunnel.run (env.recorded note) tunnel (operations.map .recorded) ledger).2 := by
  refine run_preserves (P := fun after later => Once env after.transport later) h ?_
  intro operation hmem between now hkept once
  exact once.step ((congrArg Plan.route hkept).trans hroute) hsettles hspends
    (hkeeps operation hmem) (operated env note between operation now)

end Once

variable {env : Environment ω τ π ρ} {note : τ → ω → ν} {route : Route π}

variable (env note route) in
/-- A tunnel over a route that was just made, in one of the five ways, and the ledger of that.  Two
of the ways are an attempt already. -/
inductive Begun : Tunnel (Numbered τ) (Numbered π) ρ → Ledger ω ν → Prop
  | create (prefersIpv4 : Bool) (world : ω) {tunnel : Tunnel (Numbered τ) (Numbered π) ρ}
    {ledger : Ledger ω ν}
    (made : create (env.recorded note) route.numbered prefersIpv4 (.start world) =
      (tunnel, ledger)) : Begun tunnel ledger
  | ofTransport (transport : τ) (prefersIpv4 : Bool) (world : ω)
    {tunnel : Tunnel (Numbered τ) (Numbered π) ρ} {received : Numbered τ} {ledger : Ledger ω ν}
    (receive : (Ledger.start world).receive transport = (received, ledger))
    (made : ofTransport (env.recorded note) route.numbered received prefersIpv4 ledger =
      .ok tunnel) : Begun tunnel ledger
  | ofConfig (config : Config) (world : ω) {tunnel : Tunnel (Numbered τ) (Numbered π) ρ}
    {ledger : Ledger ω ν}
    (made : ofConfig (env.recorded note) route.numbered config (.start world) =
      (.ok tunnel, ledger)) : Begun tunnel ledger
  | toHost (host : String) (port : UInt16) (prefersIpv4 : Bool) (world : ω)
    {tunnel : Tunnel (Numbered τ) (Numbered π) ρ} {ledger : Ledger ω ν}
    (made : toHost (env.recorded note) route.numbered host port prefersIpv4 (.start world) =
      (.done tunnel, ledger)) : Begun tunnel ledger
  | toEndpoint (endpoint : Endpoint) (prefersIpv4 : Bool) (world : ω)
    {tunnel : Tunnel (Numbered τ) (Numbered π) ρ} {ledger : Ledger ω ν}
    (made : toEndpoint (env.recorded note) route.numbered endpoint prefersIpv4 (.start world) =
      (.done tunnel, ledger)) : Begun tunnel ledger

theorem Once.nothing (world : ω) : Once env none (Ledger.start world : Ledger ω ν) :=
  ⟨List.nodup_nil, by simp [Ledger.reached, Ledger.start, Ledger.calls], by simp, by simp⟩

theorem Once.create {prefersIpv4 : Bool} {world : ω} {new : Tunnel (Numbered τ) (Numbered π) ρ}
    {start : Ledger ω ν} (made : Tunnel.create (env.recorded note) route.numbered prefersIpv4
      (.start world) = (new, start)) :
    new.route = route.numbered ∧ Once env new.transport start := by
  obtain ⟨rfl, rfl⟩ := by simpa [Tunnel.create] using made
  exact ⟨rfl, (Once.nothing world).renew rfl (Ledger.calls_enter _ _ _ _ _)
    (by simp [Call.reached?]) (Nat.lt_succ_self 0)⟩

/-- Whichever way a tunnel was made, it was made for the route, and no transport of it was dialed
successfully twice. -/
theorem Begun.once {new : Tunnel (Numbered τ) (Numbered π) ρ} {start : Ledger ω ν}
    (h : Begun env note route new start) (hsettles : env.Settles env.Unclosed)
    (hspends : env.Spends route.head) :
    new.route = route.numbered ∧ Once env new.transport start := by
  have hpursue {made new : Tunnel (Numbered τ) (Numbered π) ρ} {created start : Ledger ω ν}
      {goal : Goal} (hcreated : made.route = route.numbered ∧ Once env made.transport created)
      (hpursued : pursue (env.recorded note) made goal created = (.done (), new, start)) :
      new.route = route.numbered ∧ Once env new.transport start := by
    have hplan := step_plan (env.recorded note) made (.pursue goal) created
    simp only [step, hpursued] at hplan
    exact ⟨(congrArg Plan.route hplan).trans hcreated.1,
      hcreated.2.pursue hcreated.1 hsettles hspends hpursued⟩
  cases h with
  | create prefersIpv4 world made => exact Once.create made
  | ofTransport transport prefersIpv4 world receive made =>
      obtain ⟨rfl, rfl⟩ := by simpa [Ledger.receive] using receive
      unfold Tunnel.ofTransport at made
      split at made
      · cases made
      · obtain rfl := Except.ok.inj made
        exact ⟨rfl, (Once.nothing world).renew rfl (List.append_nil _).symm (by simp)
          (Nat.lt_succ_self 0)⟩
  | ofConfig config world made =>
      have hnumbers := respects_ofConfig (env.recorded_respects_numbers note).toRespectsPreparing
        route.numbered config (.start world)
      rw [made] at hnumbers
      obtain ⟨set, hcalls, ⟨new', transport, hnew, hplan, holds, hnumber, hsetUp⟩ |
        ⟨fault, hfault, -⟩⟩ := ofConfig_calls made
      · obtain rfl := Except.ok.inj hnew
        rw [holds]
        refine ⟨congrArg Plan.route hplan, (Once.nothing world).renew hnumber hcalls ?_
          (hnumbers.lt hcalls List.mem_cons_self).2⟩
        intro call hcall
        rcases List.mem_cons.mp hcall with rfl | hcall
        · rfl
        · obtain ⟨action, reply, rfl⟩ := hsetUp.plain call hcall
          rfl
      · cases hfault
  | toHost host port prefersIpv4 world made =>
      rcases hcreate : Tunnel.create (env.recorded note) route.numbered prefersIpv4 (.start world)
        with ⟨fresh, created⟩
      simp only [Tunnel.toHost, hcreate] at made
      have hpursued : pursue (env.recorded note) fresh (.host host port) created =
        (.done (), new, start) := pursue_of_made made
      exact hpursue (Once.create hcreate) hpursued
  | toEndpoint endpoint prefersIpv4 world made =>
      rcases hcreate : Tunnel.create (env.recorded note) route.numbered prefersIpv4 (.start world)
        with ⟨fresh, created⟩
      simp only [Tunnel.toEndpoint, hcreate] at made
      have hpursued : pursue (env.recorded note) fresh (.endpoint endpoint none) created =
        (.done (), new, start) := pursue_of_made made
      exact hpursue (Once.create hcreate) hpursued

variable (env route) in
/-- **Which transport is dialed.**  An attempt that has an address creates exactly one transport if
it needs one, and dials that.  It needs one if the tunnel is connected and its transport lets itself
be closed, or if it is not connected and holds no transport or a closed one.  Otherwise it creates
none, and dials the one that is held with all that has been told before, unless it is refused.  A
transport that was dialed in vain is held after that.

Suppose that new transports are not closed, and that setting them up does not close them.  Then
every dial of a run finds a transport that is neither connected nor closed.  If moreover a
successful dial leaves a transport connected until it is closed, and a closed one stays closed, no
transport of a run is dialed successfully twice. -/
theorem dials_idle_transports :
    (∀ {targets tunnel ledger}, Reachable env Prod.mk route targets tunnel ledger →
      ∀ {goal target sought started ending after later},
        aim (env.recorded Prod.mk) tunnel goal ledger = (.done target, sought) →
        ((env.recorded Prod.mk).copyRoute tunnel.route sought).2 = started →
        pursue (env.recorded Prod.mk) tunnel goal ledger = (ending, after, later) →
        (∀ held, tunnel.transport = some held →
          env.observe .isConnected held.value started.world = true →
          env.observe .isClosed held.value started.world = false) →
        ∃ made, later.entries = started.entries ++ made ∧
          Chosen env tunnel goal started made ending ∧
          ∀ hop n answer before value world,
            .call (.dial hop n answer) before (some (value, world)) ∈ made →
            answer ≠ .done () → after.transport = some ⟨n, value⟩) ∧
    (env.Settles env.Unclosed →
      ∀ {targets tunnel ledger}, Reachable env Prod.mk route targets tunnel ledger →
        ∀ hop n answer before after, .call (.dial hop n answer) before after ∈ ledger.entries →
          ∃ transport world, before = some (transport, world) ∧ env.Idle transport world) ∧
    (env.Settles env.Unclosed → env.Spends route.head →
      ∀ {new start}, Begun env Prod.mk route new start →
        ∀ operations : List (Operation ω τ ρ),
          (∀ operation ∈ operations, operation.KeepsSpent env) →
            (new.run (env.recorded Prod.mk) (operations.map .recorded) start).2.reached.Nodup) := by
  refine ⟨?_, ?_, ?_⟩
  · intro targets tunnel ledger reached goal target sought started ending after later is_aimed
      is_copied hpursue exclusive
    have hroute := reached.established.route_eq
    obtain ⟨made, hmade, hchosen⟩ := pursue_chosen hroute is_aimed is_copied exclusive hpursue
    refine ⟨made, hmade, hchosen, fun hop n answer before value world hdial in_vain => ?_⟩
    obtain ⟨found, hfound, -⟩ := (undialed_of_aim is_aimed).2
    rw [is_copied] at hfound
    have hentries : later.entries = ledger.entries ++ (found ++ made) := by
      rw [hmade, hfound, List.append_assoc]
    exact ((pursuit hroute hpursue).dial hentries (List.mem_append_right found hdial) trivial).left
      in_vain
  · intro hsettles targets tunnel ledger reached hop n answer before after hmem
    have hidle {tunnel after : Tunnel (Numbered τ) (Numbered π) ρ} {goal : Goal}
        {ledger : Ledger ω (τ × ω)} {entry : Entry (τ × ω)}
        (hdial : DialOf env Prod.mk tunnel goal ledger after entry) :
        ∃ n answer transport world noted,
          entry = .call (.dial 0 n answer) (some (transport, world)) (some noted) ∧
            env.Idle transport world := hdial.idle hsettles
    obtain ⟨m, answer', transport, world, noted, hentry, idle⟩ :=
      reached.dials hidle _ hmem trivial
    cases hentry
    exact ⟨transport, world, rfl, idle⟩
  · intro hsettles hspends new start begun operations hkeeps
    obtain ⟨hroute, honce⟩ := begun.once hsettles hspends
    exact (honce.run operations hroute hsettles hspends hkeeps).nodup

/-- A tunnel that is connected twice dials two transports, the second of which is new. -/
theorem dials_two_transports :
    let env := Scripted.plainEnvironment
    let goal : Goal := .endpoint (.inet (.v4 ⟨198, 51, 100, 7⟩ 43)) none
    let (new, start) := create (env.recorded Prod.mk) (Scripted.throughTwo {}).numbered false
      (.start {})
    let (_, tunnel, ledger) := pursue (env.recorded Prod.mk) new goal start
    let (ending, after, _) := pursue (env.recorded Prod.mk) tunnel goal ledger
    tunnel.number? = some 0 ∧ after.number? = some 1 ∧ ledger.reached.Nodup ∧
      (∃ started made, Chosen env tunnel goal started made ending) ∧
      ∃ transport world noted,
        .call (.dial 0 0 (.done ())) (some (transport, world)) noted ∈ ledger.entries ∧
          env.Idle transport world := by
  intro env goal
  obtain ⟨hchosen, hidle, honce⟩ := dials_idle_transports env (Scripted.throughTwo {})
  have hcreate : Reachable env Prod.mk (Scripted.throughTwo {}) _ _ _ := .create false {} rfl
  have hbegun : Begun env Prod.mk (Scripted.throughTwo {}) _ _ := .create false {} rfl
  have hconnected := hcreate.step (.pursue goal)
  have hnodup := honce Scripted.plainEnvironment_settles (Scripted.plainEnvironment_spends {})
    hbegun [.pursue goal] (by simp [Operation.KeepsSpent])
  obtain ⟨transport, world, hfound, idle⟩ :=
    hidle Scripted.plainEnvironment_settles hconnected 0 0 (.done ()) _ _
      (List.mem_of_getElem? (i := 3) rfl)
  cases hfound
  obtain ⟨made, -, hmade, -⟩ :=
    @hchosen _ _ _ hconnected goal _ _ _ _ _ _ rfl rfl rfl (by rintro held ⟨⟩ -; rfl)
  exact ⟨rfl, rfl, hnodup, ⟨_, made, hmade⟩, _, _, _, List.mem_of_getElem? (i := 3) rfl, idle⟩

end Tunnel

end RelayRoute
