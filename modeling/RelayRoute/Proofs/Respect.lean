import RelayRoute.Proofs.Attempt
import RelayRoute.Proofs.Recording

/-!
# What single calls keep

An environment respects a relation between worlds if the worlds before and after any single call are
related.  If the relation is reflexive and transitive, it then also relates the worlds before and
after everything that is made of calls: a walk, an attempt, whatever is done with a tunnel.  Some
relations are kept by some calls only.  Looking hosts up and logging is all that finding an address
takes; what is done with a transport before its dial comes on top of that, and last the calls to
proxies.  The three structures `RespectsLookups`, `RespectsPreparing` and `Respects` follow these
levels, so that each result asks for no more calls than the thing it is about can make.

* `respects_aim`, `respects_ready`, `respects_attempt`, `respects_pursue` — the steps of an attempt
  and the whole of it, from the single calls;
* `recorded_respects_growth` — the case that matters most: a ledger only grows;
* `recorded_respects_onlyLookups`, `recorded_respects_numbers` — finding an address calls nobody but
  resolvers, and numbers are given away one after another.
-/

namespace RelayRoute

namespace Environment

variable {ω τ π ρ ν : Type}

/-- Looking a host up and logging lead from a world to a related one, and relations can be put
together.  These are the calls that finding an address is made of. -/
structure RespectsLookups (env : Environment ω τ π ρ) (R : ω → ω → Prop) : Prop where
  refl (world : ω) : R world world
  trans {a b c : ω} : R a b → R b c → R a c
  lookup (resolver : ρ) (host : String) (world : ω) : R world (env.lookup resolver host world).2
  log (record : LogRecord) (world : ω) : R world (env.log record world)

/-- Everything that is done before a dial leads from a world to a related one: looking up and
logging, and what is done with transports, their creation and their closing included. -/
structure RespectsPreparing (env : Environment ω τ π ρ) (R : ω → ω → Prop) : Prop
    extends env.RespectsLookups R where
  perform (action : Action) (transport : τ) (world : ω) :
    R world (env.perform action transport world).2.2
  close (transport : τ) (world : ω) : R world (env.close transport world).2.2
  create (proxy : Proxy π) (world : ω) : R world (env.create proxy world).2

/-- Every call leads from a world to a related one, the dials and the requests to proxies included.
-/
structure Respects (env : Environment ω τ π ρ) (R : ω → ω → Prop) : Prop
    extends env.RespectsPreparing R where
  dial (proxy : Proxy π) (transport : τ) (world : ω) :
    R world (env.dial proxy transport world).2.2.2
  markReached (proxy : Proxy π) (world : ω) : R world (env.markReached proxy world).2
  request (proxy : Proxy π) (target : Address) (transport : τ) (world : ω) :
    R world (env.request proxy target transport world).2.2.2

namespace RespectsLookups

variable {env : Environment ω τ π ρ} {R : ω → ω → Prop} (h : env.RespectsLookups R)

include h

theorem copyRoute (route : Route π) (world : ω) : R world (env.copyRoute route world).2 := by
  rw [copyRoute_eq]
  exact h.log _ _

/-- Looking a host up, and logging that it was not found. -/
theorem records (resolver : ρ) (host : String) (world : ω) :
    R world (env.records resolver host world).2 := by
  have hlookup := h.lookup resolver host world
  unfold Environment.records
  generalize env.lookup resolver host world = result at hlookup ⊢
  obtain ⟨ending, sought⟩ := result
  cases ending with
  | done found => cases found <;> exact hlookup
  | failed fault => exact h.trans hlookup (h.log _ _)
  | abandoned => exact hlookup

/-- Keeping a ledger changes nothing. -/
theorem recorded (note : τ → ω → ν) :
    (env.recorded note).RespectsLookups fun earlier later => R earlier.world later.world where
  refl ledger := h.refl ledger.world
  trans hab hbc := h.trans hab hbc
  lookup resolver host ledger := h.lookup resolver host ledger.world
  log record ledger := h.log record ledger.world

end RespectsLookups

namespace RespectsPreparing

variable {env : Environment ω τ π ρ} {R : ω → ω → Prop} (h : env.RespectsPreparing R)

include h

/-- Keeping a ledger changes nothing. -/
theorem recorded (note : τ → ω → ν) :
    (env.recorded note).RespectsPreparing fun earlier later => R earlier.world later.world where
  toRespectsLookups := h.toRespectsLookups.recorded note
  perform action transport ledger := h.perform action transport.value ledger.world
  close transport ledger := h.close transport.value ledger.world
  create proxy ledger := h.create ⟨proxy.address, proxy.state.value⟩ ledger.world

theorem makeEach (settings : List Setting) (transport : τ) (world : ω) :
    R world (env.makeEach settings transport world).2.2 := by
  induction settings generalizing transport world with
  | nil => exact h.refl world
  | cons setting settings ih =>
      have hset := h.perform (.set setting) transport world
      unfold Environment.makeEach
      generalize env.perform (.set setting) transport world = result at hset ⊢
      obtain ⟨reply, carried, set⟩ := result
      cases reply with
      | ok _ => exact h.trans hset (ih carried set)
      | error fault => exact hset

theorem setUp (timeout : Option Duration) (settings : Settings) (transport : τ) (world : ω) :
    R world (env.setUp timeout settings transport world).2.2 := by
  cases timeout with
  | none => exact h.makeEach settings.toList transport world
  | some limit =>
      exact h.trans (h.perform (.setTimeout (some limit)) transport world)
        (h.makeEach settings.toList _ _)

end RespectsPreparing

namespace Respects

variable {env : Environment ω τ π ρ} {R : ω → ω → Prop} (h : env.Respects R)

include h

theorem ask (hop : Proxy π) (target : Address) (transport : τ) (world : ω) :
    R world (env.ask hop target transport world).2.2.2 := by
  have hrequest := h.trans (h.log (.asking hop.address target) world)
    (h.request hop target transport _)
  unfold Environment.ask
  dsimp only
  generalize env.request hop target transport (env.log (.asking hop.address target) world) =
    result at hrequest ⊢
  obtain ⟨ending, state, carried, asked⟩ := result
  cases ending with
  | failed fault => exact h.trans hrequest (h.log _ _)
  | _ => exact hrequest

/-- Walking on from a proxy that is reached. -/
theorem relay (target : Address) (reached : Proxy π) (others : List (Proxy π)) (transport : τ)
    (world : ω) : R world (env.relay target reached others transport world).2.2.2 := by
  induction others generalizing reached transport world with
  | nil => exact h.ask reached target transport world
  | cons next others ih =>
      have hask := h.ask reached next.address transport world
      unfold Environment.relay
      generalize env.ask reached next.address transport world = result at hask ⊢
      obtain ⟨ending, hop, carried, asked⟩ := result
      cases ending with
      | done _ => exact h.trans hask (h.trans (h.markReached next asked) (ih _ _ _))
      | _ => exact hask

theorem walk (route : Route π) (target : Address) (transport : τ) (world : ω) :
    R world (env.walk route target transport world).2.2.2 := by
  unfold Environment.walk
  split
  · exact h.refl world
  · have hdial := h.dial route.head transport world
    generalize env.dial route.head transport world = result at hdial ⊢
    obtain ⟨ending, state, carried, dialed⟩ := result
    cases ending with
    | done _ => exact h.trans hdial (h.relay _ _ _ _ _)
    | failed fault => exact h.trans hdial (h.log _ _)
    | abandoned => exact hdial

end Respects

end Environment

namespace Tunnel

variable {ω τ π ρ ν : Type} {env : Environment ω τ π ρ} {R : ω → ω → Prop}

/-- What comes after the creation of a new transport. -/
theorem respects_renew_created (h : env.RespectsPreparing R) (tunnel : Tunnel τ π ρ) (world : ω) :
    R (env.create tunnel.route.head world).2 (renew env tunnel world).2.2 := by
  have hset := h.setUp tunnel.timeout tunnel.settings (env.create tunnel.route.head world).1
    (env.create tunnel.route.head world).2
  unfold renew
  dsimp only
  generalize env.setUp tunnel.timeout tunnel.settings _ _ = result at hset ⊢
  obtain ⟨reply, transport, set⟩ := result
  cases reply <;> exact hset

theorem respects_renew (h : env.RespectsPreparing R) (tunnel : Tunnel τ π ρ) (world : ω) :
    R world (renew env tunnel world).2.2 :=
  h.trans (h.create tunnel.route.head world) (respects_renew_created h tunnel world)

/-- Coming to need a new transport. -/
theorem Vacated.respects (h : env.RespectsPreparing R) {tunnel vacant : Tunnel τ π ρ}
    {world world' : ω} (hvacated : Vacated env tunnel world vacant world') : R world world' := by
  cases hvacated with
  | @released old carried _ connected holds closes =>
      have hclose := h.close old world
      rwa [closes] at hclose
  | _ => exact h.refl world

theorem respects_ready (h : env.RespectsPreparing R) (tunnel : Tunnel τ π ρ) (world : ω) :
    R world (ready env tunnel world).2.2 := by
  have hready := readied env tunnel world
  generalize ready env tunnel world = result at hready ⊢
  cases hready with
  | refused unfinished => exact h.refl world
  | kept idle holds unconnected unclosed => exact h.refl world
  | @unreleased old carried fault _ connected holds closes =>
      have hclose := h.close old world
      rwa [closes] at hclose
  | renewed vacated => exact h.trans (vacated.respects h) (respects_renew h _ _)

theorem respects_limitDial (h : env.RespectsPreparing R) (limit : Option (Option Duration))
    (transport : τ) (world : ω) : R world (limitDial env limit transport world).2 := by
  cases limit with
  | none => exact h.refl world
  | some limit => exact h.perform (.setTimeout limit) transport world

/-- What comes after a tunnel was made ready for an attempt: the limit for the dial, the walk, and
the record of its success. -/
theorem respects_attempt_readied (h : env.Respects R) (tunnel : Tunnel τ π ρ)
    (destination : Address) (limit : Option (Option Duration)) (world : ω) :
    R (ready env tunnel (env.copyRoute tunnel.route world).2).2.2
      (attempt env tunnel destination limit world).2.2 := by
  have hlimited := respects_limitDial h.toRespectsPreparing limit
  have hwalked := h.walk tunnel.route destination
  have hattempted := attempted env tunnel destination limit world
  generalize attempt env tunnel destination limit world = result at hattempted ⊢
  cases hattempted with
  | unready is_ready =>
      rw [is_ready]
      exact h.refl _
  | @connected transport limited _ _ _ readied started _ is_ready is_limited is_walked =>
      specialize hlimited transport readied
      specialize hwalked limited started
      rw [is_limited] at hlimited
      rw [is_walked] at hwalked
      rw [is_ready]
      exact h.trans hlimited (h.trans hwalked (h.log _ _))
  | @stranded transport limited _ _ _ _ readied started _ is_ready is_limited is_walked not_done =>
      specialize hlimited transport readied
      specialize hwalked limited started
      rw [is_limited] at hlimited
      rw [is_walked] at hwalked
      rw [is_ready]
      exact h.trans hlimited hwalked

theorem respects_attempt (h : env.Respects R) (tunnel : Tunnel τ π ρ) (destination : Address)
    (limit : Option (Option Duration)) (world : ω) :
    R world (attempt env tunnel destination limit world).2.2 :=
  h.trans (h.copyRoute tunnel.route world) (h.trans (respects_ready h.toRespectsPreparing tunnel _)
    (respects_attempt_readied h tunnel destination limit world))

/-- Looking up the host of an address where IPv4 is preferred. -/
theorem respects_normalize (h : env.RespectsLookups R) (tunnel : Tunnel τ π ρ) (text : String)
    (address : Address) (world : ω) : R world (normalize env tunnel text address world).2 := by
  unfold normalize
  split
  · exact h.records tunnel.resolver text world
  · exact h.refl world

/-- Finding the address of an attempt. -/
theorem respects_aim (h : env.RespectsLookups R) (tunnel : Tunnel τ π ρ) (goal : Goal) (world : ω) :
    R world (aim env tunnel goal world).2 := by
  cases goal with
  | host text port =>
      unfold aim aimAtHost
      dsimp only
      generalize Host.ofText text = parsed
      cases parsed with
      | error cause => exact h.refl world
      | ok host => exact respects_normalize h tunnel _ _ world
  | endpoint endpoint limit =>
      cases endpoint with
      | localPath path => exact h.refl world
      | inet address => exact respects_normalize h tunnel _ _ world

/-- An attempt of any kind leads to a related world, if every call does.  With the relations of this
module this gives most of what is said about the calls of attempts without any case distinction on
how they end. -/
theorem respects_pursue (h : env.Respects R) (tunnel : Tunnel τ π ρ) (goal : Goal) (world : ω) :
    R world (pursue env tunnel goal world).2.2 := by
  have haim := respects_aim h.toRespectsLookups tunnel goal world
  rw [pursue_eq]
  generalize aim env tunnel goal world = aimed at haim ⊢
  obtain ⟨ending, sought⟩ := aimed
  cases ending with
  | done target => exact h.trans haim (respects_attempt h _ _ _ _)
  | _ => exact haim

theorem respects_create (h : env.RespectsPreparing R) (route : Route π) (prefersIpv4 : Bool)
    (world : ω) : R world (create env route prefersIpv4 world).2 :=
  h.create route.head world

/-- Making a new tunnel with settings. -/
theorem respects_ofConfig (h : env.RespectsPreparing R) (route : Route π) (config : Config)
    (world : ω) : R world (ofConfig env route config world).2 := by
  have hset := h.setUp config.timeout config.settings (env.create route.head world).1
    (env.create route.head world).2
  unfold ofConfig
  dsimp only
  generalize env.setUp config.timeout config.settings _ _ = result at hset ⊢
  obtain ⟨reply, transport, set⟩ := result
  cases reply <;> exact h.trans (h.create route.head world) hset

/-- Making a new tunnel that is connected to a host. -/
theorem respects_toHost (h : env.Respects R) (route : Route π) (host : String) (port : UInt16)
    (prefersIpv4 : Bool) (world : ω) : R world (toHost env route host port prefersIpv4 world).2 :=
  h.trans (respects_create h.toRespectsPreparing route prefersIpv4 world)
    (respects_pursue h _ (.host host port) _)

/-- Making a new tunnel that is connected to an endpoint. -/
theorem respects_toEndpoint (h : env.Respects R) (route : Route π) (endpoint : Endpoint)
    (prefersIpv4 : Bool) (world : ω) :
    R world (toEndpoint env route endpoint prefersIpv4 world).2 :=
  h.trans (respects_create h.toRespectsPreparing route prefersIpv4 world)
    (respects_pursue h _ (.endpoint endpoint none) _)

theorem respects_close (h : env.RespectsPreparing R) (tunnel : Tunnel τ π ρ) (world : ω) :
    R world (close env tunnel world).2.2 := by
  unfold close
  cases tunnel.transport with
  | none => exact h.refl world
  | some held => exact h.close held world

/-- Doing something with the transport of a tunnel. -/
theorem respects_perform (h : env.RespectsPreparing R) (tunnel : Tunnel τ π ρ) (action : Action)
    (world : ω) : R world (perform env tunnel action world).2.2 := by
  unfold perform
  cases tunnel.transport with
  | none => exact h.refl world
  | some held => exact h.perform action held world

theorem respects_destinationIp (h : env.RespectsLookups R) (tunnel : Tunnel τ π ρ) (world : ω) :
    R world (destinationIp env tunnel world).2 := by
  unfold destinationIp
  split
  · exact h.refl world
  · exact h.refl world
  · exact h.refl world
  · rename_i name port _
    have hrecords := h.records tunnel.resolver name world
    unfold Environment.resolve
    generalize env.records tunnel.resolver name world = result at hrecords ⊢
    obtain ⟨ending, sought⟩ := result
    cases ending <;> exact hrecords

end Tunnel

namespace Environment

variable {ω τ π ρ ν : Type}

/-- **A ledger only grows**, whatever is called. -/
theorem recorded_respects_growth (env : Environment ω τ π ρ) (note : τ → ω → ν) :
    (env.recorded note).Respects fun earlier later => earlier.entries <+: later.entries where
  refl _ := List.prefix_rfl
  trans := List.IsPrefix.trans
  perform _ _ _ := List.prefix_append _ _
  close _ _ := List.prefix_append _ _
  create _ _ := List.prefix_append _ _
  dial _ _ _ := List.prefix_append _ _
  markReached _ _ := List.prefix_append _ _
  request _ _ _ _ := List.prefix_append _ _
  lookup _ _ _ := List.prefix_append _ _
  log _ _ := List.prefix_append _ _

/-- Looking hosts up and logging calls nobody but resolvers. -/
theorem recorded_respects_onlyLookups (env : Environment ω τ π ρ) (note : τ → ω → ν) :
    (env.recorded note).RespectsLookups Ledger.OnlyLookups where
  refl ledger := ⟨[], by simp, by simp⟩
  trans := by
    rintro _ _ _ ⟨made, hmade, hlookups⟩ ⟨made', hmade', hlookups'⟩
    refine ⟨made ++ made', by rw [hmade', hmade, List.append_assoc], ?_⟩
    intro call hcall
    rcases List.mem_append.mp hcall with hcall | hcall
    · exact hlookups call hcall
    · exact hlookups' call hcall
  lookup resolver host ledger := by
    refine ⟨[.lookup host (env.lookup resolver host ledger.world).1], ?_, ?_⟩
    · exact Ledger.calls_enter ledger _ _ _ _
    · simp [Call.IsLookup]
  log record ledger := ⟨[], by simp [recorded], by simp⟩

/-- New transports are numbered one after another, whatever is called, so that no two transports
have one number. -/
theorem recorded_respects_numbers (env : Environment ω τ π ρ) (note : τ → ω → ν) :
    (env.recorded note).Respects Ledger.Numbers where
  refl ledger := ⟨0, by simp, rfl⟩
  trans := by
    rintro _ _ _ ⟨count, hcreated, hnext⟩ ⟨count', hcreated', hnext'⟩
    refine ⟨count + count', ?_, by omega⟩
    rw [hcreated', hcreated, hnext, List.append_assoc, List.range'_append_1]
  perform _ _ ledger := ⟨0, by simp [recorded, Call.created?], rfl⟩
  close _ ledger := ⟨0, by simp [recorded, Call.created?], rfl⟩
  create _ ledger := ⟨1, by simp [Ledger.created, Call.created?], rfl⟩
  dial _ _ ledger := ⟨0, by simp [recorded, Call.created?], rfl⟩
  markReached _ ledger := ⟨0, by simp [recorded, Call.created?], rfl⟩
  request _ _ _ ledger := ⟨0, by simp [recorded, Call.created?], rfl⟩
  lookup _ _ ledger := ⟨0, by simp [recorded, Call.created?], rfl⟩
  log _ ledger := ⟨0, by simp [recorded], rfl⟩

end Environment

end RelayRoute
