import RelayRoute.Proofs.Asked
import RelayRoute.Proofs.Course
import RelayRoute.Proofs.Established
import RelayRoute.Proofs.Lockstep
import RelayRoute.Proofs.Rehearsal

/-!
# Attempts do not depend on history

What a tunnel has been through is gone once it is closed, but for the world and the destination that
is stored, at which no attempt looks.  So two closed tunnels that were made alike come to the same
with the same calls, if the world answers both alike.  That the worlds and proxies of the two are
different things is expressed by a `Simulation` between them.

* `SameAttempt`, `sameAttempt_of_empty` — attempts of two empty tunnels come to the same with the
  same calls, but for the numbers of the transports;
* `SameWalk`, `sameWalk_of_new` — an empty tunnel and a new one walk alike.  A new tunnel has
  created its transport before its first attempt and not during it, so lookups must answer the same
  on either side of that (`Simulation.Quiet`), and the attempt must find its transport open
  (`FindsOpen`);
* `forgets_history` — both of these for runs of tunnels that are closed at the end, and that no run
  asks a proxy that was asked before.
-/

namespace RelayRoute

/-- Whether a call is one of those by which a route is walked. -/
def Call.isWalk : Call → Bool
  | .dial _ _ _ | .mark _ | .request _ _ _ _ => true
  | _ => false

/-- The numbers of transports have no say in what a call is for. -/
theorem Call.isWalk_shift (first : Nat) (call : Call) :
    (call.shift first).isWalk = call.isWalk := by
  cases call <;> rfl

/-- Among calls with other numbers those that walk are the same. -/
theorem Call.filter_isWalk_shift (first : Nat) (calls : List Call) :
    (calls.map (shift first)).filter isWalk = (calls.filter isWalk).map (shift first) := by
  rw [List.filter_map]
  congr 2
  funext call
  exact isWalk_shift first call

namespace Tunnel

variable {ω τ π ρ ν : Type}

/-- A tunnel that is not connected keeps a transport that is neither connected nor closed. -/
theorem ready_of_open {env : Environment ω τ π ρ} {tunnel : Tunnel τ π ρ} {held : τ} {world : ω}
    (idle : tunnel.phase ≠ .connected) (holds : tunnel.transport = some held)
    (unconnected : env.observe .isConnected held world = false)
    (unclosed : env.observe .isClosed held world = false) :
    ready env tunnel world = (.ok held, tunnel, world) := by
  unfold ready
  rw [holds]
  cases hphase : tunnel.phase with
  | connected => exact absurd hphase idle
  | _ => simp [unconnected, unclosed]

/-- A new tunnel with settings gets its transport as any tunnel that was made alike.  It is not
connected to anything, and what it was made with is what it was given. -/
theorem renew_of_ofConfig {env : Environment ω τ π ρ} {route : Route π} {config : Config}
    {new : Tunnel τ π ρ} {world later : ω}
    (h : ofConfig env route config world = (.ok new, later)) :
    new.phase = .unbound ∧
      new.plan = ⟨route, config.prefersIpv4, config.timeout, config.settings⟩ ∧
      ∃ held, new.transport = some held ∧ ∀ tunnel : Tunnel τ π ρ, tunnel.plan = new.plan →
        (renew env tunnel world).1 = .ok held ∧ (renew env tunnel world).2.2 = later := by
  unfold ofConfig at h
  dsimp only at h
  rcases hset : env.setUp config.timeout config.settings (env.create route.head world).1
    (env.create route.head world).2 with ⟨reply, transport, finished⟩
  rw [hset] at h
  cases reply with
  | error fault => simp at h
  | ok _ =>
      obtain ⟨rfl, rfl⟩ := by simpa using h
      refine ⟨rfl, rfl, transport, rfl, fun tunnel hplan => ?_⟩
      have hroute : tunnel.route = route := congrArg Plan.route hplan
      have htimeout : tunnel.timeout = config.timeout := congrArg Plan.timeout hplan
      have hsettings : tunnel.settings = config.settings := congrArg Plan.settings hplan
      simp only [renew, hroute, htimeout, hsettings, hset, and_self]

/-- An attempt for which a tunnel could be made ready stores its destination. -/
theorem prepares_destination {env : Environment ω τ π ρ} {tunnel : Tunnel τ π ρ} {goal : Goal}
    {target : Address} {world : ω} (h : prepares env tunnel (.pursue goal) world = some target) :
    (pursue env tunnel goal world).2.1.destination = some target := by
  unfold prepares at h
  dsimp only at h
  rw [pursue_eq]
  generalize aim env tunnel goal world = aimed at h ⊢
  obtain ⟨ending, sought⟩ := aimed
  cases ending with
  | done found =>
      dsimp only at h ⊢
      rcases hready : ready env tunnel (env.copyRoute tunnel.route sought).2 with
        ⟨reply, prepared, readied⟩
      rw [hready] at h
      cases reply with
      | error failure => simp at h
      | ok transport =>
          obtain rfl : found = target := Option.some.inj h
          exact attempt_destination env tunnel hready
  | _ => simp at h

/-- Which address an attempt goes for is a matter of what lookups answer, and of nothing else in the
world. -/
theorem aim_of_lookups (env : Environment ω τ π ρ) (tunnel : Tunnel τ π ρ) (goal : Goal)
    {before after : ω} (h : ∀ resolver host,
      (env.lookup resolver host after).1 = (env.lookup resolver host before).1) :
    (aim env tunnel goal after).1 = (aim env tunnel goal before).1 := by
  have hrecords (host : String) : (env.records tunnel.resolver host after).1 =
      (env.records tunnel.resolver host before).1 := by
    have hanswer := h tunnel.resolver host
    unfold Environment.records
    generalize env.lookup tunnel.resolver host after = found at hanswer ⊢
    generalize env.lookup tunnel.resolver host before = found' at hanswer ⊢
    obtain ⟨ending, later⟩ := found
    obtain ⟨ending', later'⟩ := found'
    obtain rfl : ending = ending' := hanswer
    cases ending with
    | done records => cases records <;> rfl
    | failed fault => rfl
    | abandoned => rfl
  have hnormalize (text : String) (address : Address) :
      (normalize env tunnel text address after).1 =
        (normalize env tunnel text address before).1 := by
    unfold normalize Environment.resolvePreferred
    split
    · simp only [hrecords]
    · rfl
  cases goal with
  | host text port =>
      unfold aim aimAtHost
      dsimp only
      generalize Host.ofText text = parsed
      cases parsed with
      | error cause => rfl
      | ok host => exact hnormalize _ _
  | endpoint endpoint limit =>
      cases endpoint with
      | localPath path => rfl
      | inet address => exact hnormalize _ _

/-- Before a dial nothing is dialed, and nobody is asked. -/
theorem recorded_respects_walks (env : Environment ω τ π ρ) (note : τ → ω → ν) :
    (env.recorded note).RespectsPreparing fun earlier later =>
      later.calls.filter Call.isWalk = earlier.calls.filter Call.isWalk where
  refl _ := rfl
  trans hab hbc := hbc.trans hab
  lookup _ _ ledger := by simp [Environment.recorded, Call.isWalk]
  log _ ledger := by simp [Environment.recorded]
  perform _ _ ledger := by simp [Environment.recorded, Call.isWalk]
  close _ ledger := by simp [Environment.recorded, Call.isWalk]
  create _ ledger := by simp [Call.isWalk]

end Tunnel

namespace Simulation

variable {ω₁ ω₂ τ₁ τ₂ π₁ π₂ ρ ν₁ ν₂ : Type} {first : Environment ω₁ τ₁ π₁ ρ}
  {second : Environment ω₂ τ₂ π₂ ρ} (sim : Simulation first second)

/-- Looking hosts up and logging has no say in how the worlds answer later, and lookups find the
same in a world of the second environment before and after a tunnel was made in it.  Nothing is
asked of calls to proxies or to transports: a new tunnel creates its transport and sets it up before
the lookups of its first attempt, and an empty tunnel after them, and that is all that differs. -/
structure Quiet (before after : ω₂) : Prop where
  lookups (resolver : ρ) (host : String) :
    (second.lookup resolver host after).1 = (second.lookup resolver host before).1
  first : first.RespectsLookups fun a a' => ∀ b, sim.worlds a b → sim.worlds a' b
  second : second.RespectsLookups fun b b' => ∀ a, sim.worlds a b → sim.worlds a b'

/-- Attempts at an address that were made ready alike go on alike: their dials are limited alike,
and then both walk. -/
theorem attempt_readied {x : Tunnel τ₁ π₁ ρ} {y : Tunnel τ₂ π₂ ρ} {a a' : ω₁} {b b' : ω₂}
    {s : τ₁} {t : τ₂} {prepared : Tunnel τ₁ π₁ ρ} {prepared' : Tunnel τ₂ π₂ ρ} (target : Address)
    (limit : Option (Option Duration)) (hroutes : sim.Routes x.route y.route)
    (hfirst : x.ready first (first.copyRoute x.route a).2 = (.ok s, prepared, a'))
    (hsecond : y.ready second (second.copyRoute y.route b).2 = (.ok t, prepared', b'))
    (htransports : sim.transports s t) (hworlds : sim.worlds a' b') :
    (x.attempt first target limit a).1 = (y.attempt second target limit b).1 ∧
      sim.worlds (x.attempt first target limit a).2.2 (y.attempt second target limit b).2.2 ∧
      (prepared.phase = prepared'.phase →
        (x.attempt first target limit a).2.1.phase =
          (y.attempt second target limit b).2.1.phase) := by
  obtain ⟨hlimited, hstarted⟩ := sim.limitDial limit htransports hworlds
  have hwalked := sim.walk target hroutes hlimited hstarted
  obtain ⟨ending, _, _, hwalk, hwalk', -, hcarried, hlater⟩ := hwalked.answer
  rw [Environment.copyRoute_eq] at hfirst hsecond
  simp only [Tunnel.attempt, Environment.copyRoute_eq, hfirst, hsecond, hwalk, hwalk']
  cases ending with
  | done _ =>
      rw [hroutes.length_eq]
      exact ⟨rfl, sim.log _ hlater, fun _ => rfl⟩
  | failed failure => exact ⟨rfl, hlater, id⟩
  | abandoned => exact ⟨rfl, hlater, id⟩

/-- Attempts of empty tunnels that were made alike come to the same.  An empty tunnel is made ready
by giving it a new transport, and the two transports are related, since the routes are. -/
theorem pursue_of_empty {x : Tunnel τ₁ π₁ ρ} {y : Tunnel τ₂ π₂ ρ} {a : ω₁} {b : ω₂}
    (goal : Tunnel.Goal) (hroutes : sim.Routes x.route y.route)
    (hprefers : x.prefersIpv4 = y.prefersIpv4) (hresolvers : x.resolver = y.resolver)
    (htimeouts : x.timeout = y.timeout) (hsettings : x.settings = y.settings)
    (hphases : x.phase = y.phase) (idle : x.phase ≠ .connected) (hempty : x.transport = none)
    (hempty' : y.transport = none) (hworlds : sim.worlds a b) :
    (x.pursue first goal a).1 = (y.pursue second goal b).1 ∧
      sim.worlds (x.pursue first goal a).2.2 (y.pursue second goal b).2.2 ∧
      (x.pursue first goal a).2.1.phase = (y.pursue second goal b).2.1.phase ∧
      Tunnel.prepares first x (.pursue goal) a = Tunnel.prepares second y (.pursue goal) b := by
  have haimed := sim.aim goal hprefers hresolvers hworlds
  obtain ⟨ending, a₁, b₁, hfirst, hsecond, hsought⟩ := haimed.answer
  simp only [Tunnel.pursue_eq, Tunnel.prepares, hfirst, hsecond]
  cases ending with
  | failed failure => exact ⟨rfl, hsought, hphases, rfl⟩
  | abandoned => exact ⟨rfl, hsought, hphases, rfl⟩
  | done target =>
      have hcopied := (sim.copyRoute hroutes hsought).2
      obtain ⟨hreplies, hready⟩ := sim.renew_answers hroutes htimeouts hsettings hcopied
      rw [← Tunnel.ready_of_empty first x idle hempty,
        ← Tunnel.ready_of_empty second y (hphases ▸ idle) hempty'] at hreplies hready
      rcases hx : x.ready first (first.copyRoute x.route a₁).2 with ⟨reply, prepared, a₂⟩
      rcases hy : y.ready second (second.copyRoute y.route b₁).2 with ⟨reply', prepared', b₂⟩
      rw [hx, hy] at hreplies hready
      have hphase : prepared.phase = prepared'.phase := by
        rw [Tunnel.ready_frame first x hx, Tunnel.ready_frame second y hy, hphases]
      dsimp only
      rw [hx, hy]
      cases hreplies with
      | ok htransports =>
          obtain ⟨hending, hlater, hafter⟩ :=
            sim.attempt_readied target goal.limit? hroutes hx hy htransports hready
          exact ⟨hending, hlater, hafter hphase, rfl⟩
      | error failure =>
          rw [Tunnel.attempt_of_ready_error first x hx, Tunnel.attempt_of_ready_error second y hy]
          exact ⟨rfl, hready, hphase, rfl⟩

/-! ## Where ledgers are kept -/

section

variable (first : Environment ω₁ τ₁ π₁ ρ) (second : Environment ω₂ τ₂ π₂ ρ) (note₁ : τ₁ → ω₁ → ν₁)
  (note₂ : τ₂ → ω₂ → ν₂) (goal : Tunnel.Goal) (x : Tunnel (Numbered τ₁) (Numbered π₁) ρ)
  (y : Tunnel (Numbered τ₂) (Numbered π₂) ρ) (a : Ledger ω₁ ν₁) (b : Ledger ω₂ ν₂)

/-- Two attempts come to the same with the same calls, but for the numbers of the transports.  They
leave the tunnels in the same phase, and with the same destination if these could be made ready. -/
structure SameAttempt : Prop where
  ending : (x.pursue (first.recorded note₁) goal a).1 = (y.pursue (second.recorded note₂) goal b).1
  calls : ∃ course : List Call,
    (x.pursue (first.recorded note₁) goal a).2.2.calls =
      a.calls ++ course.map (Call.shift a.next) ∧
    (y.pursue (second.recorded note₂) goal b).2.2.calls =
      b.calls ++ course.map (Call.shift b.next)
  phase : (x.pursue (first.recorded note₁) goal a).2.1.phase =
    (y.pursue (second.recorded note₂) goal b).2.1.phase
  prepares : Tunnel.prepares (first.recorded note₁) x (.pursue goal) a =
    Tunnel.prepares (second.recorded note₂) y (.pursue goal) b
  destination {target : Address} :
    Tunnel.prepares (first.recorded note₁) x (.pursue goal) a = some target →
      (x.pursue (first.recorded note₁) goal a).2.1.destination = some target ∧
      (y.pursue (second.recorded note₂) goal b).2.1.destination = some target

/-- Two attempts come to the same and walk alike, but for the numbers of the transports. -/
structure SameWalk : Prop where
  ending : (x.pursue (first.recorded note₁) goal a).1 = (y.pursue (second.recorded note₂) goal b).1
  calls : ∃ (course : List Call) (first₁ first₂ : Nat),
    (x.pursue (first.recorded note₁) goal a).2.2.calls.filter Call.isWalk =
      a.calls.filter Call.isWalk ++ course.map (Call.shift first₁) ∧
    (y.pursue (second.recorded note₂) goal b).2.2.calls.filter Call.isWalk =
      b.calls.filter Call.isWalk ++ course.map (Call.shift first₂)

/-- When an attempt looks at the transport that the tunnel holds, that is neither connected nor
closed. -/
def FindsOpen : Prop :=
  ∀ target sought held, y.aim (second.recorded note₂) goal b = (.done target, sought) →
    y.transport = some held →
      let started := ((second.recorded note₂).copyRoute y.route sought).2
      second.observe .isConnected held.value started.world = false ∧
        second.observe .isClosed held.value started.world = false

end

variable {note₁ : τ₁ → ω₁ → ν₁} {note₂ : τ₂ → ω₂ → ν₂} {r₁ : Route π₁} {r₂ : Route π₂}
  {x : Tunnel (Numbered τ₁) (Numbered π₁) ρ} {y : Tunnel (Numbered τ₂) (Numbered π₂) ρ}
  {a : Ledger ω₁ ν₁} {b : Ledger ω₂ ν₂}

variable (note₁ note₂) in
/-- Tunnels over related routes that were numbered. -/
theorem recorded_routes (hroutes : sim.Routes r₁ r₂) (hx : x.route = r₁.numbered)
    (hy : y.route = r₂.numbered) (base₁ base₂ : List Call) (first₁ first₂ : Nat) :
    (sim.recorded note₁ note₂ base₁ base₂ first₁ first₂).Routes x.route y.route := by
  rw [hx, hy]
  exact sim.numbered_related note₁ note₂ hroutes

/-- Empty tunnels that were made alike come to the same with the same calls. -/
theorem sameAttempt_of_empty (goal : Tunnel.Goal) (hroutes : sim.Routes r₁ r₂)
    (hx : x.route = r₁.numbered) (hy : y.route = r₂.numbered)
    (hprefers : x.prefersIpv4 = y.prefersIpv4) (hresolvers : x.resolver = y.resolver)
    (htimeouts : x.timeout = y.timeout) (hsettings : x.settings = y.settings)
    (hphases : x.phase = y.phase) (idle : x.phase ≠ .connected) (hempty : x.transport = none)
    (hempty' : y.transport = none) (hworlds : sim.worlds a.world b.world) :
    SameAttempt first second note₁ note₂ goal x y a b := by
  have hnumbered := sim.recorded_routes note₁ note₂ hroutes hx hy a.calls b.calls a.next b.next
  obtain ⟨hending, ⟨-, hlater⟩, hphase, hprepares⟩ :=
    (sim.recorded note₁ note₂ a.calls b.calls a.next b.next).pursue_of_empty goal hnumbered
      hprefers hresolvers htimeouts hsettings hphases idle hempty hempty' ⟨hworlds, .start a b⟩
  refine ⟨hending, hlater.calls, hphase, hprepares, fun htarget => ⟨?_, ?_⟩⟩
  · exact Tunnel.prepares_destination htarget
  · exact Tunnel.prepares_destination (hprepares.symm.trans htarget)

variable (note₁) in
/-- An empty tunnel is given a transport like one that a tunnel made alike was given before, by as
many calls, none of which belongs to a walk. -/
theorem ready_like_renewed {started : Ledger ω₁ ν₁} {start later : Ledger ω₂ ν₂}
    {held : Numbered τ₂} (hroutes : sim.Routes r₁ r₂) (hx : x.route = r₁.numbered)
    (hy : y.route = r₂.numbered) (htimeouts : x.timeout = y.timeout)
    (hsettings : x.settings = y.settings) (idle : x.phase ≠ .connected)
    (hempty : x.transport = none) (hrenewed : (y.renew (second.recorded note₂) start).1 = .ok held)
    (hlater : (y.renew (second.recorded note₂) start).2.2 = later)
    (hworlds : sim.worlds started.world start.world) :
    ∃ transport prepared readied,
      x.ready (first.recorded note₁) started = (.ok transport, prepared, readied) ∧
      readied.calls.filter Call.isWalk = started.calls.filter Call.isWalk ∧
      (∃ count, readied.next = started.next + count ∧ later.next = start.next + count) ∧
      sim.worlds readied.world later.world ∧ ∀ base₁ base₂ : List Call,
        (sim.recorded note₁ note₂ base₁ base₂ started.next start.next).transports transport
          held := by
  have hnumbered := sim.recorded_routes note₁ note₂ hroutes hx hy started.calls start.calls
    started.next start.next
  obtain ⟨hreplies, hrenewed_worlds, hlockstep⟩ :=
    (sim.recorded note₁ note₂ started.calls start.calls started.next start.next).renew_answers
      hnumbered htimeouts hsettings ⟨hworlds, .start started start⟩
  rw [hrenewed] at hreplies
  rw [hlater] at hrenewed_worlds hlockstep
  rw [← Tunnel.ready_of_empty _ x idle hempty] at hreplies hrenewed_worlds hlockstep
  have hcalls := Tunnel.respects_ready (Tunnel.recorded_respects_walks first note₁) x started
  rcases hready : x.ready (first.recorded note₁) started with ⟨reply, prepared, readied⟩
  rw [hready] at hreplies hrenewed_worlds hlockstep hcalls
  cases hreplies with
  | ok htransports =>
      exact ⟨_, prepared, readied, rfl, hcalls, hlockstep.next, hrenewed_worlds,
        fun _ _ => htransports⟩

/-- An attempt at an address of a tunnel that has its transport already goes on like that of an
empty one, if both get their transports alike.  Once both have one, both attempts walk, and the
walks are compared. -/
theorem attempt_of_new {start later : Ledger ω₂ ν₂} {held : Numbered τ₂}
    (quiet : sim.Quiet start.world later.world) (target : Address)
    (limit : Option (Option Duration)) (hroutes : sim.Routes r₁ r₂) (hx : x.route = r₁.numbered)
    (hy : y.route = r₂.numbered) (htimeouts : x.timeout = y.timeout)
    (hsettings : x.settings = y.settings) (idle : x.phase ≠ .connected)
    (hempty : x.transport = none) (idle' : y.phase ≠ .connected) (holds : y.transport = some held)
    (hrenewed : (y.renew (second.recorded note₂) start).1 = .ok held)
    (hlater : (y.renew (second.recorded note₂) start).2.2 = later)
    (hsought : ∀ world, sim.worlds world later.world → sim.worlds world b.world)
    (hnext : b.next = later.next)
    (unconnected : second.observe .isConnected held.value
      ((second.recorded note₂).copyRoute y.route b).2.world = false)
    (unclosed : second.observe .isClosed held.value
      ((second.recorded note₂).copyRoute y.route b).2.world = false)
    (hworlds : sim.worlds a.world start.world) :
    (x.attempt (first.recorded note₁) target limit a).1 =
      (y.attempt (second.recorded note₂) target limit b).1 ∧
    ∃ (course : List Call) (first₁ first₂ : Nat),
      (x.attempt (first.recorded note₁) target limit a).2.2.calls.filter Call.isWalk =
        a.calls.filter Call.isWalk ++ course.map (Call.shift first₁) ∧
      (y.attempt (second.recorded note₂) target limit b).2.2.calls.filter Call.isWalk =
        b.calls.filter Call.isWalk ++ course.map (Call.shift first₂) := by
  have hcopied := (quiet.first.recorded note₁).copyRoute x.route a
  have hcopied' := (quiet.second.recorded note₂).copyRoute y.route b
  obtain ⟨transport, prepared, readied, hready, hready_calls, ⟨count, hcount, hcount'⟩,
    hrenewed_worlds, htransports⟩ :=
    sim.ready_like_renewed note₁ hroutes hx hy htimeouts hsettings idle hempty hrenewed hlater
      (hcopied _ hworlds)
  have hready' : y.ready (second.recorded note₂) ((second.recorded note₂).copyRoute y.route b).2 =
      (.ok held, y, ((second.recorded note₂).copyRoute y.route b).2) :=
    Tunnel.ready_of_open idle' holds unconnected unclosed
  have hworlds' := hcopied' _ (hsought _ hrenewed_worlds)
  rw [first.calls_copyRoute] at hready_calls
  have hnext' : ((second.recorded note₂).copyRoute y.route b).2.next = start.next + count := by
    rw [second.next_copyRoute, hnext, hcount']
  have hnumbered := sim.recorded_routes note₁ note₂ hroutes hx hy
  obtain ⟨hending, ⟨-, hafter⟩, -⟩ :=
    (sim.recorded note₁ note₂ _ _ _ _).attempt_readied target limit (hnumbered _ _ _ _) hready
      hready' (htransports _ _) ⟨hworlds', .since hcount hnext'⟩
  obtain ⟨course, hcalls, hcalls'⟩ := hafter.calls
  refine ⟨hending, course.filter Call.isWalk, ((first.recorded note₁).copyRoute x.route a).2.next,
    start.next, ?_, ?_⟩
  · rw [hcalls, List.filter_append, Call.filter_isWalk_shift, hready_calls]
  · rw [hcalls', List.filter_append, Call.filter_isWalk_shift, second.calls_copyRoute]

/-- The attempt of a tunnel that has its transport already comes to the same as that of an empty
one, if both get their transports alike.  Both find the same address first, since lookups answer the
same whether the transport was created before them or not. -/
theorem sameWalk_of_held {start : Ledger ω₂ ν₂} {held : Numbered τ₂}
    (quiet : sim.Quiet start.world b.world) (goal : Tunnel.Goal) (hroutes : sim.Routes r₁ r₂)
    (hx : x.route = r₁.numbered) (hy : y.route = r₂.numbered)
    (hprefers : x.prefersIpv4 = y.prefersIpv4) (hresolvers : x.resolver = y.resolver)
    (htimeouts : x.timeout = y.timeout) (hsettings : x.settings = y.settings)
    (idle : x.phase ≠ .connected) (hempty : x.transport = none) (idle' : y.phase ≠ .connected)
    (holds : y.transport = some held)
    (hrenewed : (y.renew (second.recorded note₂) start).1 = .ok held)
    (hlater : (y.renew (second.recorded note₂) start).2.2 = b)
    (hopen : FindsOpen second note₂ goal y b) (hworlds : sim.worlds a.world start.world) :
    SameWalk first second note₁ note₂ goal x y a b := by
  have hquiet₁ := quiet.first.recorded note₁
  have hquiet₂ := quiet.second.recorded note₂
  have hwalks₁ := Tunnel.recorded_respects_walks first note₁
  have hwalks₂ := Tunnel.recorded_respects_walks second note₂
  have hunmoved : (y.aim (second.recorded note₂) goal b).1 =
      (y.aim (second.recorded note₂) goal start).1 :=
    Tunnel.aim_of_lookups (second.recorded note₂) y goal quiet.lookups
  have haimed := (sim.recorded note₁ note₂ a.calls start.calls a.next start.next).aim goal hprefers
    hresolvers ⟨hworlds, .start a start⟩
  have hsame : (x.aim (first.recorded note₁) goal a).1 = (y.aim (second.recorded note₂) goal b).1 :=
    haimed.1.trans hunmoved.symm
  rcases hfirst : x.aim (first.recorded note₁) goal a with ⟨ending, a₁⟩
  rcases hsecond : y.aim (second.recorded note₂) goal b with ⟨ending', b₁⟩
  rw [hfirst, hsecond] at hsame
  obtain rfl : ending = ending' := hsame
  have hsought₁ := Tunnel.respects_aim hquiet₁ x goal a
  have hsought₂ := Tunnel.respects_aim hquiet₂ y goal b
  have hcalls₁ := Tunnel.respects_aim hwalks₁.toRespectsLookups x goal a
  have hcalls₂ := Tunnel.respects_aim hwalks₂.toRespectsLookups y goal b
  have hnext := Tunnel.respects_aim (second.recorded_respects_next note₂) y goal b
  have hpursue₁ := Tunnel.pursue_eq (first.recorded note₁) x goal a
  have hpursue₂ := Tunnel.pursue_eq (second.recorded note₂) y goal b
  rw [hfirst] at hsought₁ hcalls₁ hpursue₁
  rw [hsecond] at hsought₂ hcalls₂ hnext hpursue₂
  cases ending with
  | failed failure =>
      refine ⟨by rw [hpursue₁, hpursue₂], [], 0, 0, ?_, ?_⟩
      · rw [hpursue₁, hcalls₁, List.map_nil, List.append_nil]
      · rw [hpursue₂, hcalls₂, List.map_nil, List.append_nil]
  | abandoned =>
      refine ⟨by rw [hpursue₁, hpursue₂], [], 0, 0, ?_, ?_⟩
      · rw [hpursue₁, hcalls₁, List.map_nil, List.append_nil]
      · rw [hpursue₂, hcalls₂, List.map_nil, List.append_nil]
  | done target =>
      obtain ⟨unconnected, unclosed⟩ := hopen target b₁ held hsecond holds
      obtain ⟨hending, course, first₁, first₂, hmade₁, hmade₂⟩ :=
        sim.attempt_of_new (a := a₁) (b := b₁) quiet target goal.limit? hroutes hx hy htimeouts
          hsettings idle hempty idle' holds hrenewed hlater hsought₂ hnext unconnected unclosed
          (hsought₁ _ hworlds)
      refine ⟨by rw [hpursue₁, hpursue₂]; exact hending, course, first₁, first₂, ?_, ?_⟩
      · rw [hpursue₁, ← hcalls₁]
        exact hmade₁
      · rw [hpursue₂, ← hcalls₂]
        exact hmade₂

/-- The first attempt of a new tunnel comes to the same as that of an empty one that was made alike,
and walks like it. -/
theorem sameWalk_of_new {config : Config} {new : Tunnel (Numbered τ₂) (Numbered π₂) ρ}
    {start : Ledger ω₂ ν₂} (quiet : sim.Quiet start.world b.world) (goal : Tunnel.Goal)
    (hroutes : sim.Routes r₁ r₂)
    (hplan : x.plan = ⟨r₁.numbered, config.prefersIpv4, config.timeout, config.settings⟩)
    (idle : x.phase ≠ .connected) (hempty : x.transport = none)
    (hmade : Tunnel.ofConfig (second.recorded note₂) r₂.numbered config start = (.ok new, b))
    (hopen : FindsOpen second note₂ goal { new with resolver := x.resolver } b)
    (hworlds : sim.worlds a.world start.world) :
    SameWalk first second note₁ note₂ goal x { new with resolver := x.resolver } a b := by
  obtain ⟨hphase, hplan', held, holds, hrenew⟩ := Tunnel.renew_of_ofConfig hmade
  obtain ⟨hrenewed, hlater⟩ := hrenew { new with resolver := x.resolver } rfl
  have hplans : x.plan.prefersIpv4 = new.plan.prefersIpv4 ∧ x.plan.timeout = new.plan.timeout ∧
      x.plan.settings = new.plan.settings := by
    rw [hplan, hplan']
    exact ⟨rfl, rfl, rfl⟩
  obtain ⟨hprefers, htimeouts, hsettings⟩ := hplans
  have idle' : new.phase ≠ .connected := by simp [hphase]
  exact sim.sameWalk_of_held quiet goal hroutes (congrArg Tunnel.Plan.route hplan)
    (congrArg Tunnel.Plan.route hplan') hprefers rfl htimeouts hsettings idle hempty idle' holds
    hrenewed hlater hopen hworlds

/-- **Attempts do not depend on history.**  Take any two runs of tunnels that were made alike over
routes through related proxies, and close both tunnels.  If the worlds then answer alike, the next
attempts come to the same with the same calls, whatever the tunnels have been through.  They also
come to the same as the first attempt of a new tunnel, and walk like that, if it could be made,
finds its transport open, and lookups answer the same before and after it was made and have no say
in how the worlds answer later.  In no run is a proxy asked that was asked before, and the
configured proxies are never asked. -/
theorem forgets_history (note₁ : τ₁ → ω₁ → ν₁) (note₂ : τ₂ → ω₂ → ν₂) :
    (∀ (r₁ : Route π₁) (r₂ : Route π₂) (targets₁ targets₂ : List Address)
      (x : Tunnel (Numbered τ₁) (Numbered π₁) ρ) (y : Tunnel (Numbered τ₂) (Numbered π₂) ρ)
      (a : Ledger ω₁ ν₁) (b : Ledger ω₂ ν₂),
      Tunnel.Reachable first note₁ r₁ targets₁ x a → Tunnel.Reachable second note₂ r₂ targets₂ y b →
      sim.Routes r₁ r₂ → x.prefersIpv4 = y.prefersIpv4 → x.resolver = y.resolver →
      x.timeout = y.timeout → x.settings = y.settings →
      let (_, closed₁, later₁) := x.close (first.recorded note₁) a
      let (_, closed₂, later₂) := y.close (second.recorded note₂) b
      sim.worlds later₁.world later₂.world →
      ∀ goal, SameAttempt first second note₁ note₂ goal closed₁ closed₂ later₁ later₂) ∧
    (∀ (r₁ : Route π₁) (r₂ : Route π₂) (targets : List Address) (config : Config)
      (x : Tunnel (Numbered τ₁) (Numbered π₁) ρ) (new : Tunnel (Numbered τ₂) (Numbered π₂) ρ)
      (a : Ledger ω₁ ν₁) (b start : Ledger ω₂ ν₂),
      Tunnel.Reachable first note₁ r₁ targets x a → sim.Routes r₁ r₂ →
      x.plan = ⟨r₁.numbered, config.prefersIpv4, config.timeout, config.settings⟩ →
      Tunnel.ofConfig (second.recorded note₂) r₂.numbered config start = (.ok new, b) →
      let (_, closed, later) := x.close (first.recorded note₁) a
      sim.worlds later.world start.world → sim.Quiet start.world b.world →
      ∀ goal, FindsOpen second note₂ goal { new with resolver := x.resolver } b →
        SameWalk first second note₁ note₂ goal closed { new with resolver := x.resolver } later b) ∧
    ∀ (tunnel : Tunnel τ₁ π₁ ρ) (operations : List (Tunnel.Operation ω₁ τ₁ ρ)) (tally : Tally ω₁),
      let (after, later) := tunnel.tallied.run first.tallied (operations.map .tallied) tally
      after.route.Unasked ∧ later.repeated = tally.repeated ∧
        Both first.talliedSimulation.Tunnels first.talliedSimulation.worlds (after, later)
          (tunnel.run first operations tally.world) := by
  refine ⟨?_, ?_, ?_⟩
  · intro r₁ r₂ targets₁ targets₂ x y a b hx hy hroutes hprefers hresolvers htimeouts hsettings
    have hclosed₁ := Tunnel.close_tunnel (first.recorded note₁) x a
    have hclosed₂ := Tunnel.close_tunnel (second.recorded note₂) y b
    generalize x.close (first.recorded note₁) a = result₁ at hclosed₁
    generalize y.close (second.recorded note₂) b = result₂ at hclosed₂
    obtain ⟨reply₁, closed₁, later₁⟩ := result₁
    obtain ⟨reply₂, closed₂, later₂⟩ := result₂
    obtain rfl : closed₁ = { x with phase := .closed, transport := none } := hclosed₁
    obtain rfl : closed₂ = { y with phase := .closed, transport := none } := hclosed₂
    intro hworlds goal
    exact sim.sameAttempt_of_empty goal hroutes hx.established.route_eq hy.established.route_eq
      hprefers hresolvers htimeouts hsettings rfl (by simp) rfl rfl hworlds
  · intro r₁ r₂ targets config x new a b start hx hroutes hplan hmade
    have hclosed := Tunnel.close_tunnel (first.recorded note₁) x a
    generalize x.close (first.recorded note₁) a = result at hclosed
    obtain ⟨reply, closed, later⟩ := result
    obtain rfl : closed = { x with phase := .closed, transport := none } := hclosed
    intro hworlds quiet goal hopen
    have hplan : ({ x with phase := .closed, transport := none } :
        Tunnel (Numbered τ₁) (Numbered π₁) ρ).plan = _ := hplan
    exact sim.sameWalk_of_new quiet goal hroutes hplan (by simp) rfl hmade hopen hworlds
  · intro tunnel operations tally
    have hunasked : tunnel.tallied.route.Unasked := tunnel.route.unasked_unasked
    obtain ⟨hkept, hrepeated⟩ := Tunnel.run_repeated first hunasked operations tally
    exact ⟨hkept, hrepeated, Tunnel.run_tallied first tunnel operations tally⟩

end Simulation

namespace Scripted

/-- Where transports are plain ones, nothing that happens has a say in what happens later, so
lookups have none. -/
theorem plainSimulation_quiet (before after : Stage) : plainSimulation.Quiet before after where
  lookups resolver host :=
    (plainSimulation.lookup (a := after) (b := before) resolver host trivial).1
  first :=
    { refl := fun _ _ => id, trans := fun h h' b => h' b ∘ h b, lookup := fun _ _ _ _ => id,
      log := fun _ _ _ => id }
  second :=
    { refl := fun _ _ => id, trans := fun h h' a => h' a ∘ h a, lookup := fun _ _ _ _ => id,
      log := fun _ _ _ => id }

/-- One tunnel was connected, and another one was turned away.  When both are closed their next
attempts come to the same, and to what the first attempt of a new tunnel comes to. -/
theorem forgets_rejection :
    let route := throughTwo { refusal := some (.rejected "no"), only := some "203.0.113.9:80" }
    let reached : Tunnel.Goal := .endpoint (.inet (.v4 ⟨198, 51, 100, 7⟩ 43)) none
    let refused : Tunnel.Goal := .endpoint (.inet (.v4 ⟨203, 0, 113, 9⟩ 80)) none
    let note : Carrier → Stage → Unit := fun _ _ => ()
    let env := plainEnvironment.recorded note
    let (new, start) := Tunnel.create env route.numbered false (.start {})
    let (ending₁, x, a) := new.pursue env reached start
    let (ending₂, y, b) := new.pursue env refused start
    let (_, closed₁, later₁) := x.close env a
    let (_, closed₂, later₂) := y.close env b
    ending₁ = .done () ∧
      ending₂ = .failed (.relay ⟨.v4 ⟨192, 0, 2, 2⟩, 3128⟩ (.rejected "no")) ∧
      (closed₁.pursue env reached later₁).1 = .done () ∧
      Simulation.SameAttempt plainEnvironment plainEnvironment note note reached closed₁ closed₂
        later₁ later₂ ∧
      Simulation.SameWalk plainEnvironment plainEnvironment note note reached closed₂ new later₂
        start := by
  intro route reached refused note env
  have hroutes : plainSimulation.Routes route route :=
    ⟨⟨rfl, _, _, rfl, rfl, rfl⟩, .cons ⟨rfl, _, _, rfl, rfl, rfl⟩ .nil⟩
  have hnew : Tunnel.Reachable plainEnvironment note route [] _ _ :=
    .create false ({} : Stage) rfl
  have hconnected := hnew.step (.pursue reached)
  have hrejected := hnew.step (.pursue refused)
  obtain ⟨hsame, hwalks, -⟩ := plainSimulation.forgets_history note note
  refine ⟨rfl, rfl, rfl, ?_, ?_⟩
  · exact hsame route route _ _ _ _ _ _ hconnected hrejected hroutes rfl rfl rfl rfl trivial reached
  · refine hwalks route route _ {} _ _ _ _ (.start {}) hrejected hroutes rfl rfl trivial
      (plainSimulation_quiet _ _) reached ?_
    intro target sought held haim holds
    obtain rfl := Option.some.inj holds
    exact ⟨rfl, rfl⟩

end Scripted

end RelayRoute
