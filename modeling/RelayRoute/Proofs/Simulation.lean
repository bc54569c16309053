import Mathlib.Data.List.Forall2
import RelayRoute.Proofs.Run

/-!
# Environments that answer alike

A `Simulation` relates the worlds, the transports and the proxies of two environments such that
every call to related ones is answered alike and leaves them related.  Whatever is done with related
tunnels is then answered alike too, and leaves related tunnels: nothing that is done with a tunnel
looks at anything but the answers.

The proof is compositional, one lemma for each function of the tunnel, in the order in which they
call each other:

* `ask`, `relay`, `walk` — walks over related routes come to the same;
* `aim`, `ready`, `attempt`, `pursue` — so do attempts, step by step;
* `step`, `run` — so do operations, one and many;
* `recordedSimulation` — an environment that keeps a ledger answers like the one it is made of;
* `run_recorded` — so keeping a ledger changes nothing in any run, and what is shown of a ledger is
  true of the run without one.
-/

namespace RelayRoute

/-- Pairs whose parts are related, each by its own relation.  Answers are compared in this form,
with equality for the reply and the relations of a simulation for what comes with it. -/
def Both {α₁ α₂ β₁ β₂ : Type} (R : α₁ → α₂ → Prop) (S : β₁ → β₂ → Prop) (x : α₁ × β₁)
    (y : α₂ × β₂) : Prop :=
  R x.1 y.1 ∧ S x.2 y.2

/-- Equal answers, and what comes with them.  This takes the two results of a call apart in such a
form that both sides of a comparison reduce at once. -/
theorem Both.answer {β α₁ α₂ : Type} {R : α₁ → α₂ → Prop} {x : β × α₁} {y : β × α₂}
    (h : Both Eq R x y) : ∃ answer u v, x = (answer, u) ∧ y = (answer, v) ∧ R u v := by
  obtain ⟨answer, u⟩ := x
  obtain ⟨answer', v⟩ := y
  obtain ⟨hanswer, hrest⟩ := h
  obtain rfl : answer = answer' := hanswer
  exact ⟨answer, u, v, rfl, rfl, hrest⟩

variable {ω₁ ω₂ τ₁ τ₂ π₁ π₂ ρ : Type}

/-- A relation between two environments that all calls keep: worlds, transports and states of
proxies that are related are answered alike, and what is left of them is related again. -/
structure Simulation (first : Environment ω₁ τ₁ π₁ ρ) (second : Environment ω₂ τ₂ π₂ ρ) where
  worlds : ω₁ → ω₂ → Prop
  transports : τ₁ → τ₂ → Prop
  states : π₁ → π₂ → Prop
  observe {s : τ₁} {t : τ₂} {a : ω₁} {b : ω₂} (query : Query) : transports s t → worlds a b →
    first.observe query s a = second.observe query t b
  perform {s : τ₁} {t : τ₂} {a : ω₁} {b : ω₂} (action : Action) : transports s t → worlds a b →
    Both Eq (Both transports worlds) (first.perform action s a) (second.perform action t b)
  close {s : τ₁} {t : τ₂} {a : ω₁} {b : ω₂} : transports s t → worlds a b →
    Both Eq (Both transports worlds) (first.close s a) (second.close t b)
  create {p : π₁} {q : π₂} {a : ω₁} {b : ω₂} (address : Address) : states p q → worlds a b →
    Both transports worlds (first.create ⟨address, p⟩ a) (second.create ⟨address, q⟩ b)
  dial {p : π₁} {q : π₂} {s : τ₁} {t : τ₂} {a : ω₁} {b : ω₂} (address : Address) :
    states p q → transports s t → worlds a b →
    Both Eq (Both states (Both transports worlds))
      (first.dial ⟨address, p⟩ s a) (second.dial ⟨address, q⟩ t b)
  markReached {p : π₁} {q : π₂} {a : ω₁} {b : ω₂} (address : Address) : states p q → worlds a b →
    Both states worlds (first.markReached ⟨address, p⟩ a) (second.markReached ⟨address, q⟩ b)
  request {p : π₁} {q : π₂} {s : τ₁} {t : τ₂} {a : ω₁} {b : ω₂} (address target : Address) :
    states p q → transports s t → worlds a b →
    Both Eq (Both states (Both transports worlds))
      (first.request ⟨address, p⟩ target s a) (second.request ⟨address, q⟩ target t b)
  lookup {a : ω₁} {b : ω₂} (resolver : ρ) (host : String) : worlds a b →
    Both Eq worlds (first.lookup resolver host a) (second.lookup resolver host b)
  systemResolver : first.systemResolver = second.systemResolver
  log {a : ω₁} {b : ω₂} (record : LogRecord) : worlds a b →
    worlds (first.log record a) (second.log record b)

namespace Simulation

variable {first : Environment ω₁ τ₁ π₁ ρ} {second : Environment ω₂ τ₂ π₂ ρ}
  (sim : Simulation first second)

/-- Proxies with one address and related states. -/
structure Proxies (p : Proxy π₁) (q : Proxy π₂) : Prop where
  address : p.address = q.address
  state : sim.states p.state q.state

/-- Routes through related proxies. -/
structure Routes (r : Route π₁) (r' : Route π₂) : Prop where
  head : sim.Proxies r.head r'.head
  rest : List.Forall₂ sim.Proxies r.rest r'.rest

/-- Related routes lead through equally many proxies. -/
theorem Routes.length_eq {sim : Simulation first second} {r : Route π₁} {r' : Route π₂}
    (h : sim.Routes r r') : r.length = r'.length := by
  simp [Route.length, Route.hops, h.rest.length_eq]

/-- What walks and requests come to, with what is left of the route or the proxy. -/
abbrev Walks {α₁ α₂ β : Type} (R : α₁ → α₂ → Prop) :
    β × α₁ × τ₁ × ω₁ → β × α₂ × τ₂ × ω₂ → Prop :=
  Both Eq (Both R (Both sim.transports sim.worlds))

variable {a : ω₁} {b : ω₂} {s : τ₁} {t : τ₂}

/-! ## Walks -/

theorem ask {p : Proxy π₁} {q : Proxy π₂} (target : Address) (hproxies : sim.Proxies p q)
    (htransports : sim.transports s t) (hworlds : sim.worlds a b) :
    sim.Walks sim.Proxies (first.ask p target s a) (second.ask q target t b) := by
  obtain ⟨address, state⟩ := p
  obtain ⟨address', state'⟩ := q
  obtain ⟨haddress, hstate⟩ := hproxies
  obtain rfl : address = address' := haddress
  have hasked := sim.request address target hstate htransports
    (sim.log (.asking address target) hworlds)
  obtain ⟨ending, _, _, hfirst, hsecond, hstates, hcarried, hlater⟩ := hasked.answer
  simp only [Environment.ask, hfirst, hsecond]
  cases ending with
  | failed fault => exact ⟨rfl, ⟨rfl, hstates⟩, hcarried, sim.log _ hlater⟩
  | _ => exact ⟨rfl, ⟨rfl, hstates⟩, hcarried, hlater⟩

/-- Walking on from a proxy that is reached. -/
theorem relay {p : Proxy π₁} {q : Proxy π₂} {ps : List (Proxy π₁)} {qs : List (Proxy π₂)}
    (target : Address) (hreached : sim.Proxies p q) (hothers : List.Forall₂ sim.Proxies ps qs)
    (htransports : sim.transports s t) (hworlds : sim.worlds a b) :
    sim.Walks sim.Routes (first.relay target p ps s a) (second.relay target q qs t b) := by
  induction hothers generalizing p q s t a b with
  | nil =>
      obtain ⟨hending, hproxies, hlater⟩ := sim.ask target hreached htransports hworlds
      exact ⟨hending, ⟨hproxies, .nil⟩, hlater⟩
  | @cons next next' others others' hnext hothers ih =>
      have hasked := sim.ask next.address hreached htransports hworlds
      obtain ⟨ending, _, _, hfirst, hsecond, hhop, hcarried, hlater⟩ := hasked.answer
      simp only [Environment.relay, ← hnext.address, hfirst, hsecond]
      cases ending with
      | done _ =>
          obtain ⟨address, state⟩ := next
          obtain ⟨address', state'⟩ := next'
          obtain ⟨haddress, hstate⟩ := hnext
          obtain rfl : address = address' := haddress
          obtain ⟨hmarked, hmark⟩ := sim.markReached address hstate hlater
          have hreached : sim.Proxies ⟨address, _⟩ ⟨address, _⟩ := ⟨rfl, hmarked⟩
          obtain ⟨hending, hfurther, hfinal⟩ := ih hreached hcarried hmark
          exact ⟨hending, ⟨hhop, .cons hfurther.head hfurther.rest⟩, hfinal⟩
      | _ => exact ⟨rfl, ⟨hhop, .cons hnext hothers⟩, hcarried, hlater⟩

theorem walk {r : Route π₁} {r' : Route π₂} (target : Address) (hroutes : sim.Routes r r')
    (htransports : sim.transports s t) (hworlds : sim.worlds a b) :
    sim.Walks sim.Routes (first.walk r target s a) (second.walk r' target t b) := by
  obtain ⟨⟨address, state⟩, rest⟩ := r
  obtain ⟨⟨address', state'⟩, rest'⟩ := r'
  obtain ⟨⟨haddress, hstate⟩, hrest⟩ := hroutes
  obtain rfl : address = address' := haddress
  unfold Environment.walk
  rw [sim.observe .isConnected htransports hworlds]
  cases second.observe .isConnected t b with
  | true => exact ⟨rfl, ⟨⟨rfl, hstate⟩, hrest⟩, htransports, hworlds⟩
  | false =>
      have hdialed := sim.dial address hstate htransports hworlds
      obtain ⟨ending, _, _, hfirst, hsecond, hstates, hcarried, hlater⟩ := hdialed.answer
      simp only [Bool.false_eq_true, if_false, hfirst, hsecond]
      cases ending with
      | done _ => exact sim.relay target ⟨rfl, hstates⟩ hrest hcarried hlater
      | failed fault => exact ⟨rfl, ⟨⟨rfl, hstates⟩, hrest⟩, hcarried, sim.log _ hlater⟩
      | abandoned => exact ⟨rfl, ⟨⟨rfl, hstates⟩, hrest⟩, hcarried, hlater⟩

theorem copyRoute {r : Route π₁} {r' : Route π₂} (hroutes : sim.Routes r r')
    (hworlds : sim.worlds a b) :
    Both sim.Routes sim.worlds (first.copyRoute r a) (second.copyRoute r' b) := by
  rw [Environment.copyRoute_eq, Environment.copyRoute_eq, hroutes.length_eq]
  exact ⟨hroutes, sim.log _ hworlds⟩

/-! ## Preparation and resolution -/

theorem makeEach (settings : List Setting) (htransports : sim.transports s t)
    (hworlds : sim.worlds a b) :
    Both Eq (Both sim.transports sim.worlds) (first.makeEach settings s a)
      (second.makeEach settings t b) := by
  induction settings generalizing s t a b with
  | nil => exact ⟨rfl, htransports, hworlds⟩
  | cons setting settings ih =>
      have hset := sim.perform (.set setting) htransports hworlds
      obtain ⟨reply, _, _, hfirst, hsecond, hcarried, hlater⟩ := hset.answer
      simp only [Environment.makeEach, hfirst, hsecond]
      cases reply with
      | ok _ => exact ih hcarried hlater
      | error fault => exact ⟨rfl, hcarried, hlater⟩

theorem setUp (timeout : Option Duration) (settings : Settings) (htransports : sim.transports s t)
    (hworlds : sim.worlds a b) :
    Both Eq (Both sim.transports sim.worlds) (first.setUp timeout settings s a)
      (second.setUp timeout settings t b) := by
  cases timeout with
  | none => exact sim.makeEach settings.toList htransports hworlds
  | some limit =>
      obtain ⟨-, hcarried, hlater⟩ := sim.perform (.setTimeout (some limit)) htransports hworlds
      exact sim.makeEach settings.toList hcarried hlater

/-- Looking the records of a host up. -/
theorem records (resolver : ρ) (host : String) (hworlds : sim.worlds a b) :
    Both Eq sim.worlds (first.records resolver host a) (second.records resolver host b) := by
  have hlookup := sim.lookup resolver host hworlds
  obtain ⟨ending, _, _, hfirst, hsecond, hlater⟩ := hlookup.answer
  simp only [Environment.records, hfirst, hsecond]
  cases ending with
  | done found => cases found <;> exact ⟨rfl, hlater⟩
  | failed fault => exact ⟨rfl, sim.log _ hlater⟩
  | abandoned => exact ⟨rfl, hlater⟩

/-! ## Tunnels -/

/-- Tunnels with one configuration that are equally far, through related proxies and with related
transports. -/
structure Tunnels (x : Tunnel τ₁ π₁ ρ) (y : Tunnel τ₂ π₂ ρ) : Prop where
  route : sim.Routes x.route y.route
  transport : Option.Rel sim.transports x.transport y.transport
  destination : x.destination = y.destination
  phase : x.phase = y.phase
  prefersIpv4 : x.prefersIpv4 = y.prefersIpv4
  resolver : x.resolver = y.resolver
  timeout : x.timeout = y.timeout
  settings : x.settings = y.settings

/-- What attempts come to. -/
abbrev Ends {β : Type} :
    β × Tunnel τ₁ π₁ ρ × ω₁ → β × Tunnel τ₂ π₂ ρ × ω₂ → Prop :=
  Both Eq (Both sim.Tunnels sim.worlds)

/-- Equal faults, or related transports. -/
inductive Readies : Except Failure τ₁ → Except Failure τ₂ → Prop
  | ok {s : τ₁} {t : τ₂} (htransports : sim.transports s t) : Readies (.ok s) (.ok t)
  | error (failure : Failure) : Readies (.error failure) (.error failure)

variable {x : Tunnel τ₁ π₁ ρ} {y : Tunnel τ₂ π₂ ρ}

namespace Tunnels

variable {sim}

/-- A tunnel that holds another transport, or none. -/
theorem hold (h : sim.Tunnels x y) {held : Option τ₁} {held' : Option τ₂}
    (hheld : Option.Rel sim.transports held held') :
    sim.Tunnels { x with transport := held } { y with transport := held' } :=
  { h with transport := hheld }

theorem enter (h : sim.Tunnels x y) (phase : Phase) :
    sim.Tunnels { x with phase } { y with phase } :=
  { h with phase := rfl }

end Tunnels

/-- Giving a tunnel a new transport; nothing but its configuration matters to what comes of it, so
that the tunnels need be related in nothing else. -/
theorem renew_answers (hroutes : sim.Routes x.route y.route) (htimeouts : x.timeout = y.timeout)
    (hsettings : x.settings = y.settings) (hworlds : sim.worlds a b) :
    sim.Readies (x.renew first a).1 (y.renew second b).1 ∧
      sim.worlds (x.renew first a).2.2 (y.renew second b).2.2 := by
  obtain ⟨⟨⟨address, state⟩, rest⟩, _, _, _, _, _, timeout, settings⟩ := x
  obtain ⟨⟨⟨address', state'⟩, rest'⟩, _, _, _, _, _, timeout', settings'⟩ := y
  obtain rfl : address = address' := hroutes.head.address
  obtain rfl : timeout = timeout' := htimeouts
  obtain rfl : settings = settings' := hsettings
  obtain ⟨hcreated, hlater⟩ := sim.create address hroutes.head.state hworlds
  have hset := sim.setUp timeout settings hcreated hlater
  obtain ⟨reply, _, _, hfirst, hsecond, hcarried, hfinal⟩ := hset.answer
  simp only [Tunnel.renew, hfirst, hsecond]
  cases reply with
  | ok _ => exact ⟨.ok hcarried, hfinal⟩
  | error fault => exact ⟨.error _, hfinal⟩

/-- Giving a tunnel a new transport. -/
theorem renew (htunnels : sim.Tunnels x y) (hworlds : sim.worlds a b) :
    Both sim.Readies (Both sim.Tunnels sim.worlds) (x.renew first a) (y.renew second b) := by
  obtain ⟨hreplies, hlater⟩ :=
    sim.renew_answers htunnels.route htunnels.timeout htunnels.settings hworlds
  refine ⟨hreplies, ?_, hlater⟩
  rcases hfirst : x.renew first a with ⟨reply, renewed, a'⟩
  rcases hsecond : y.renew second b with ⟨reply', renewed', b'⟩
  rw [hfirst, hsecond] at hreplies
  obtain ⟨s, hreply, rfl⟩ | ⟨fault, hreply, rfl⟩ := Tunnel.renew_changes first x hfirst <;>
    obtain ⟨t, hreply', rfl⟩ | ⟨fault', hreply', rfl⟩ := Tunnel.renew_changes second y hsecond <;>
    rw [hreply, hreply'] at hreplies
  · cases hreplies with
    | ok hcarried => exact htunnels.hold (.some hcarried)
  · cases hreplies
  · cases hreplies
  · exact htunnels

theorem ready (htunnels : sim.Tunnels x y) (hworlds : sim.worlds a b) :
    Both sim.Readies (Both sim.Tunnels sim.worlds) (x.ready first a) (y.ready second b) := by
  have hphase := htunnels.phase
  have htransport := htunnels.transport
  unfold Tunnel.ready
  rw [← hphase]
  generalize hheld : x.transport = held at htransport ⊢
  generalize hheld' : y.transport = held' at htransport ⊢
  cases htransport with
  | none =>
      cases x.phase with
      | connected => exact sim.renew ((htunnels.enter .unbound).hold .none) hworlds
      | _ => exact sim.renew htunnels hworlds
  | @some held held' hrelated =>
      cases x.phase with
      | connected =>
          have hclosed := sim.close hrelated hworlds
          obtain ⟨reply, _, _, hfirst, hsecond, -, hlater⟩ := hclosed.answer
          simp only [hfirst, hsecond]
          have hempty := (htunnels.enter .unbound).hold .none
          cases reply with
          | ok _ => exact sim.renew hempty hlater
          | error fault => exact ⟨.error _, hempty, hlater⟩
      | _ =>
          dsimp only
          rw [sim.observe .isConnected hrelated hworlds, sim.observe .isClosed hrelated hworlds]
          split
          · exact ⟨.error _, htunnels, hworlds⟩
          · split
            · exact sim.renew htunnels hworlds
            · exact ⟨.ok hrelated, htunnels, hworlds⟩

theorem limitDial (limit : Option (Option Duration)) (htransports : sim.transports s t)
    (hworlds : sim.worlds a b) :
    Both sim.transports sim.worlds (Tunnel.limitDial first limit s a)
      (Tunnel.limitDial second limit t b) := by
  cases limit with
  | none => exact ⟨htransports, hworlds⟩
  | some limit => exact (sim.perform (.setTimeout limit) htransports hworlds).2

theorem attempt (target : Address) (limit : Option (Option Duration))
    (htunnels : sim.Tunnels x y) (hworlds : sim.worlds a b) :
    sim.Ends (x.attempt first target limit a) (y.attempt second target limit b) := by
  obtain ⟨hcopies, hcopied⟩ := sim.copyRoute htunnels.route hworlds
  have hreadied := sim.ready htunnels hcopied
  unfold Tunnel.attempt
  dsimp only
  generalize first.copyRoute x.route a = copied at hcopies hreadied ⊢
  generalize second.copyRoute y.route b = copied' at hcopies hreadied ⊢
  generalize x.ready first copied.2 = result at hreadied ⊢
  generalize y.ready second copied'.2 = result' at hreadied ⊢
  obtain ⟨reply, prepared, a₁⟩ := result
  obtain ⟨reply', prepared', b₁⟩ := result'
  obtain ⟨hreply, hprepared, hready⟩ := hreadied
  cases hreply with
  | error failure => exact ⟨rfl, hprepared, hready⟩
  | @ok s t hheld =>
      obtain ⟨hlimited, hstarted⟩ := sim.limitDial limit hheld hready
      have hwalked := sim.walk target hcopies hlimited hstarted
      obtain ⟨ending, ⟨_, s₁, _⟩, ⟨_, t₁, _⟩, hfirst, hsecond, -, hcarried, hlater⟩ :=
        hwalked.answer
      simp only [hfirst, hsecond]
      have hafter : sim.Tunnels
          { prepared with destination := some target, transport := some s₁ }
          { prepared' with destination := some target, transport := some t₁ } :=
        { hprepared with transport := .some hcarried, destination := rfl }
      cases ending with
      | done _ =>
          refine ⟨rfl, hafter.enter .connected, ?_⟩
          rw [hcopies.length_eq]
          exact sim.log _ hlater
      | _ => exact ⟨rfl, hafter, hlater⟩

/-- Looking the host of an address up where IPv4 is preferred. -/
theorem normalize (text : String) (address : Address) (hprefers : x.prefersIpv4 = y.prefersIpv4)
    (hresolvers : x.resolver = y.resolver) (hworlds : sim.worlds a b) :
    Both Eq sim.worlds (x.normalize first text address a) (y.normalize second text address b) := by
  unfold Tunnel.normalize Environment.resolvePreferred
  rw [hprefers, hresolvers]
  split
  · have hrecords := sim.records y.resolver text hworlds
    obtain ⟨ending, _, _, hfirst, hsecond, hlater⟩ := hrecords.answer
    simp only [hfirst, hsecond]
    exact ⟨rfl, hlater⟩
  · exact ⟨rfl, hworlds⟩

/-- Finding the address of an attempt. -/
theorem aim (goal : Tunnel.Goal) (hprefers : x.prefersIpv4 = y.prefersIpv4)
    (hresolvers : x.resolver = y.resolver) (hworlds : sim.worlds a b) :
    Both Eq sim.worlds (x.aim first goal a) (y.aim second goal b) := by
  cases goal with
  | host text port =>
      unfold Tunnel.aim Tunnel.aimAtHost
      dsimp only
      generalize Host.ofText text = parsed
      cases parsed with
      | error cause => exact ⟨rfl, hworlds⟩
      | ok host => exact sim.normalize host.text ⟨host, port⟩ hprefers hresolvers hworlds
  | endpoint endpoint limit =>
      cases endpoint with
      | localPath path => exact ⟨rfl, hworlds⟩
      | inet address => exact sim.normalize address.ip.text _ hprefers hresolvers hworlds

/-- An attempt of any kind comes to the same for related tunnels in related worlds, and leaves both
related. -/
theorem pursue (goal : Tunnel.Goal) (htunnels : sim.Tunnels x y) (hworlds : sim.worlds a b) :
    sim.Ends (x.pursue first goal a) (y.pursue second goal b) := by
  have haimed := sim.aim goal htunnels.prefersIpv4 htunnels.resolver hworlds
  obtain ⟨ending, _, _, hfirst, hsecond, hsought⟩ := haimed.answer
  rw [Tunnel.pursue_eq, Tunnel.pursue_eq, hfirst, hsecond]
  cases ending with
  | done target => exact sim.attempt target goal.limit? htunnels hsought
  | failed failure => exact ⟨rfl, htunnels, hsought⟩
  | abandoned => exact ⟨rfl, htunnels, hsought⟩

theorem closeTunnel (htunnels : sim.Tunnels x y) (hworlds : sim.worlds a b) :
    sim.Ends (Tunnel.close first x a) (Tunnel.close second y b) := by
  have hclosed := (htunnels.enter .closed).hold .none
  have htransport := htunnels.transport
  unfold Tunnel.close
  generalize x.transport = held at htransport ⊢
  generalize y.transport = held' at htransport ⊢
  cases htransport with
  | none => exact ⟨rfl, hclosed, hworlds⟩
  | some hrelated =>
      obtain ⟨hreply, -, hlater⟩ := sim.close hrelated hworlds
      exact ⟨hreply, hclosed, hlater⟩

/-- Doing something with the transport of a tunnel. -/
theorem performTunnel (action : Action) (htunnels : sim.Tunnels x y) (hworlds : sim.worlds a b) :
    sim.Ends (Tunnel.perform first x action a) (Tunnel.perform second y action b) := by
  have htransport := htunnels.transport
  unfold Tunnel.perform
  generalize hheld : x.transport = held at htransport ⊢
  generalize hheld' : y.transport = held' at htransport ⊢
  cases htransport with
  | none => exact ⟨rfl, htunnels, hworlds⟩
  | some hrelated =>
      obtain ⟨hreply, hcarried, hlater⟩ := sim.perform action hrelated hworlds
      exact ⟨hreply, htunnels.hold (.some hcarried), hlater⟩

theorem destinationIp (htunnels : sim.Tunnels x y) (hworlds : sim.worlds a b) :
    Both Eq sim.worlds (Tunnel.destinationIp first x a) (Tunnel.destinationIp second y b) := by
  unfold Tunnel.destinationIp Environment.resolve
  rw [htunnels.destination, htunnels.resolver]
  split
  · exact ⟨rfl, hworlds⟩
  · exact ⟨rfl, hworlds⟩
  · exact ⟨rfl, hworlds⟩
  · rename_i name port _
    have hrecords := sim.records y.resolver name hworlds
    obtain ⟨ending, _, _, hfirst, hsecond, hlater⟩ := hrecords.answer
    simp only [hfirst, hsecond]
    cases ending <;> exact ⟨rfl, hlater⟩

/-- The same operation; what is done with a lent transport is done with a related one alike. -/
inductive Operations : Tunnel.Operation ω₁ τ₁ ρ → Tunnel.Operation ω₂ τ₂ ρ → Prop
  | pursue (goal : Tunnel.Goal) : Operations (.pursue goal) (.pursue goal)
  | close : Operations .close .close
  | perform (action : Action) : Operations (.perform action) (.perform action)
  | locate : Operations .locate .locate
  | lend {use : τ₁ → ω₁ → τ₁ × ω₁} {use' : τ₂ → ω₂ → τ₂ × ω₂}
    (hused : ∀ s t a b, sim.transports s t → sim.worlds a b →
      Both sim.transports sim.worlds (use s a) (use' t b)) :
    Operations (.lend use) (.lend use')
  | setResolver (resolver : ρ) : Operations (.setResolver resolver) (.setResolver resolver)

theorem step {operation : Tunnel.Operation ω₁ τ₁ ρ} {operation' : Tunnel.Operation ω₂ τ₂ ρ}
    (hoperations : sim.Operations operation operation') (htunnels : sim.Tunnels x y)
    (hworlds : sim.worlds a b) :
    Both sim.Tunnels sim.worlds (x.step first operation a) (y.step second operation' b) := by
  cases hoperations with
  | pursue goal => exact (sim.pursue goal htunnels hworlds).2
  | close => exact (sim.closeTunnel htunnels hworlds).2
  | perform action => exact (sim.performTunnel action htunnels hworlds).2
  | locate => exact ⟨htunnels, (sim.destinationIp htunnels hworlds).2⟩
  | lend hused =>
      have htransport := htunnels.transport
      unfold Tunnel.step Tunnel.lend
      dsimp only
      generalize hheld : x.transport = held at htransport ⊢
      generalize hheld' : y.transport = held' at htransport ⊢
      cases htransport with
      | none => exact ⟨htunnels, hworlds⟩
      | some hrelated =>
          obtain ⟨hcarried, hlater⟩ := hused _ _ _ _ hrelated hworlds
          exact ⟨htunnels.hold (.some hcarried), hlater⟩
  | setResolver resolver => exact ⟨{ htunnels with resolver := rfl }, hworlds⟩

/-- Operations, one after another, come to the same for related tunnels in related worlds.  The
induction is on the operations, with `step` for each of them. -/
theorem run {operations : List (Tunnel.Operation ω₁ τ₁ ρ)}
    {operations' : List (Tunnel.Operation ω₂ τ₂ ρ)}
    (hoperations : List.Forall₂ sim.Operations operations operations')
    (htunnels : sim.Tunnels x y) (hworlds : sim.worlds a b) :
    Both sim.Tunnels sim.worlds (x.run first operations a) (y.run second operations' b) := by
  induction hoperations generalizing x y a b with
  | nil => exact ⟨htunnels, hworlds⟩
  | cons hoperation hoperations ih =>
      obtain ⟨hafter, hlater⟩ := sim.step hoperation htunnels hworlds
      exact ih hafter hlater

/-! ## Making tunnels -/

/-- A tunnel that holds a transport. -/
theorem holding {r : Route π₁} {r' : Route π₂} (prefersIpv4 : Bool) (hroutes : sim.Routes r r')
    (htransports : sim.transports s t) :
    sim.Tunnels (Tunnel.holding first r s prefersIpv4) (Tunnel.holding second r' t prefersIpv4) :=
  ⟨hroutes, .some htransports, rfl, rfl, rfl, sim.systemResolver, rfl, rfl⟩

theorem createTunnel {r : Route π₁} {r' : Route π₂} (prefersIpv4 : Bool)
    (hroutes : sim.Routes r r') (hworlds : sim.worlds a b) :
    Both sim.Tunnels sim.worlds (Tunnel.create first r prefersIpv4 a)
      (Tunnel.create second r' prefersIpv4 b) := by
  obtain ⟨⟨address, state⟩, rest⟩ := r
  obtain ⟨⟨address', state'⟩, rest'⟩ := r'
  obtain rfl : address = address' := hroutes.head.address
  obtain ⟨hcreated, hlater⟩ := sim.create address hroutes.head.state hworlds
  exact ⟨sim.holding prefersIpv4 hroutes hcreated, hlater⟩

end Simulation

/-! ## Ledgers -/

namespace Environment

variable {ω τ π ν : Type} (env : Environment ω τ π ρ) (note : τ → ω → ν)

/-- An environment that keeps a ledger answers like the one it is made of: numbers, entries and
notes have no say in any answer. -/
def recordedSimulation : Simulation (env.recorded note) env where
  worlds ledger world := ledger.world = world
  transports numbered transport := numbered.value = transport
  states numbered state := numbered.value = state
  observe query := by
    rintro rfl rfl
    rfl
  perform action := by
    rintro rfl rfl
    exact ⟨rfl, rfl, rfl⟩
  close := by
    rintro _ _ _ _ rfl rfl
    exact ⟨rfl, rfl, rfl⟩
  create address := by
    rintro rfl rfl
    exact ⟨rfl, rfl⟩
  dial address := by
    rintro rfl rfl rfl
    exact ⟨rfl, rfl, rfl, rfl⟩
  markReached address := by
    rintro rfl rfl
    exact ⟨rfl, rfl⟩
  request address target := by
    rintro rfl rfl rfl
    exact ⟨rfl, rfl, rfl, rfl⟩
  lookup resolver host := by
    rintro rfl
    exact ⟨rfl, rfl⟩
  systemResolver := rfl
  log record := by
    rintro rfl
    rfl

/-- Numbers make no difference to proxies. -/
theorem numberFrom_related (n : Nat) (proxies : List (Proxy π)) :
    List.Forall₂ (env.recordedSimulation note).Proxies (Route.numberFrom n proxies) proxies := by
  induction proxies generalizing n with
  | nil => exact .nil
  | cons proxy proxies ih => exact .cons ⟨rfl, rfl⟩ (ih (n + 1))

/-- Numbers make no difference to routes. -/
theorem numbered_related (route : Route π) :
    (env.recordedSimulation note).Routes route.numbered route :=
  ⟨⟨rfl, rfl⟩, env.numberFrom_related note 1 route.rest⟩

/-- An operation where a ledger is kept is the operation that it was. -/
theorem operation_related (operation : Tunnel.Operation ω τ ρ) :
    (env.recordedSimulation note).Operations operation.recorded operation := by
  cases operation with
  | pursue goal => exact .pursue goal
  | close => exact .close
  | perform action => exact .perform action
  | locate => exact .locate
  | lend use =>
      refine .lend ?_
      rintro _ _ _ _ rfl rfl
      exact ⟨rfl, rfl⟩
  | setResolver resolver => exact .setResolver resolver

/-- **A ledger changes nothing.**  A new tunnel goes through the same run in an environment that
keeps a ledger and in the environment that this is made of.  So what is shown about a run with a
ledger is about the run as it is. -/
theorem run_recorded (route : Route π) (prefersIpv4 : Bool)
    (operations : List (Tunnel.Operation ω τ ρ)) (ledger : Ledger ω ν) :
    let (new, start) := Tunnel.create (env.recorded note) route.numbered prefersIpv4 ledger
    let (plain, world) := Tunnel.create env route prefersIpv4 ledger.world
    Both (env.recordedSimulation note).Tunnels (env.recordedSimulation note).worlds
      (new.run (env.recorded note) (operations.map .recorded) start)
      (plain.run env operations world) := by
  obtain ⟨hnew, hstart⟩ := (env.recordedSimulation note).createTunnel prefersIpv4
    (env.numbered_related note route) (a := ledger) rfl
  refine (env.recordedSimulation note).run ?_ hnew hstart
  induction operations with
  | nil => exact .nil
  | cons operation operations ih => exact .cons (env.operation_related note operation) ih

end Environment

end RelayRoute
