import RelayRoute.Proofs.Simulation

/-!
# Calls that are made in lockstep

Two environments that answer alike are called alike, too: if each keeps a ledger, the calls that are
entered from some moment on are the same in both, but for the numbers of transports, which each
ledger counts on its own.  `Simulation.recorded` adds this to what a simulation says, and so it
holds for everything that is made of calls.

* `Lockstep` — the same calls have been entered in two ledgers since a certain moment, up to a shift
  of the numbers;
* `Simulation.recorded` — a simulation of environments is one of the environments that keep ledgers,
  with lockstep added to the relation between worlds;
* `Simulation.refl`, `eq_of_refl_tunnels` — the case of an environment and itself, in which tunnels
  that are alike are the same.
-/

namespace RelayRoute

/-- The call with the numbers of transports counted from another one on; a call that goes to a
resolver, or tells a proxy that it is reached, stays what it is. -/
def Call.shift (first : Nat) : Call → Call
  | .create n => .create (first + n)
  | .perform n action reply => .perform (first + n) action reply
  | .close n reply => .close (first + n) reply
  | .dial hop n ending => .dial hop (first + n) ending
  | .mark hop => .mark hop
  | .request hop target n ending => .request hop target (first + n) ending
  | .lookup host ending => .lookup host ending

/-- Numbers that are counted from zero on are what they were. -/
@[simp] theorem Call.shift_zero : Call.shift 0 = id := by
  funext call
  cases call <;> simp [shift]

variable {ω₁ ω₂ τ₁ τ₂ π₁ π₂ ρ ν₁ ν₂ : Type}

/-- Two ledgers that held certain calls, with certain numbers to come next, have since had the same
calls entered, and have given equally many numbers away. -/
structure Lockstep (base₁ base₂ : List Call) (first₁ first₂ : Nat) (a : Ledger ω₁ ν₁)
    (b : Ledger ω₂ ν₂) : Prop where
  next : ∃ count, a.next = first₁ + count ∧ b.next = first₂ + count
  calls : ∃ course : List Call, a.calls = base₁ ++ course.map (Call.shift first₁) ∧
    b.calls = base₂ ++ course.map (Call.shift first₂)

namespace Lockstep

variable {base₁ base₂ : List Call} {first₁ first₂ : Nat} {a : Ledger ω₁ ν₁} {b : Ledger ω₂ ν₂}

/-- Two ledgers that have given equally many numbers away, before any call is entered. -/
theorem since {count : Nat} (hfirst : a.next = first₁ + count) (hsecond : b.next = first₂ + count) :
    Lockstep a.calls b.calls first₁ first₂ a b :=
  ⟨⟨count, hfirst, hsecond⟩, [], by simp, by simp⟩

theorem start (a : Ledger ω₁ ν₁) (b : Ledger ω₂ ν₂) :
    Lockstep a.calls b.calls a.next b.next a b :=
  since (Nat.add_zero _).symm (Nat.add_zero _).symm

/-- Where both count alike, the same calls are entered. -/
theorem calls_eq (h : Lockstep base₁ base₂ 0 0 a b) {made : List Call}
    (hmade : a.calls = base₁ ++ made) : b.calls = base₂ ++ made := by
  obtain ⟨course, hfirst, hsecond⟩ := h.calls
  obtain rfl : made = course := by
    apply List.append_cancel_left (hmade.symm.trans ?_)
    simpa using hfirst
  simpa using hsecond

/-- Where both count alike, the next numbers are the same. -/
theorem next_eq (h : Lockstep base₁ base₂ 0 0 a b) : a.next = b.next := by
  obtain ⟨count, hfirst, hsecond⟩ := h.next
  rw [hfirst, hsecond]

theorem enter (h : Lockstep base₁ base₂ first₁ first₂ a b) (call : Call)
    (before₁ after₁ : Option ν₁) (before₂ after₂ : Option ν₂) (world₁ : ω₁) (world₂ : ω₂) :
    Lockstep base₁ base₂ first₁ first₂ (a.enter (call.shift first₁) before₁ after₁ world₁)
      (b.enter (call.shift first₂) before₂ after₂ world₂) := by
  obtain ⟨course, hfirst, hsecond⟩ := h.calls
  refine ⟨h.next, course ++ [call], ?_, ?_⟩
  · rw [Ledger.calls_enter, hfirst, List.map_append, List.append_assoc]
    rfl
  · rw [Ledger.calls_enter, hsecond, List.map_append, List.append_assoc]
    rfl

theorem create (h : Lockstep base₁ base₂ first₁ first₂ a b) (after₁ : Option ν₁)
    (after₂ : Option ν₂) (world₁ : ω₁) (world₂ : ω₂) :
    Lockstep base₁ base₂ first₁ first₂
      ({ a with next := a.next + 1 }.enter (.create a.next) none after₁ world₁)
      ({ b with next := b.next + 1 }.enter (.create b.next) none after₂ world₂) := by
  obtain ⟨count, hfirst, hsecond⟩ := h.next
  have hnext : Lockstep base₁ base₂ first₁ first₂ { a with next := a.next + 1 }
      { b with next := b.next + 1 } :=
    ⟨⟨count + 1, by simp [hfirst, Nat.add_assoc], by simp [hsecond, Nat.add_assoc]⟩, h.calls⟩
  have hentered := hnext.enter (.create count) none after₁ none after₂ world₁ world₂
  rwa [Call.shift, Call.shift, ← hfirst, ← hsecond] at hentered

theorem write (h : Lockstep base₁ base₂ first₁ first₂ a b) (record : LogRecord) (world₁ : ω₁)
    (world₂ : ω₂) :
    Lockstep base₁ base₂ first₁ first₂ (a.write record world₁) (b.write record world₂) := by
  obtain ⟨course, hfirst, hsecond⟩ := h.calls
  exact ⟨h.next, course, by rw [Ledger.calls_write, hfirst], by rw [Ledger.calls_write, hsecond]⟩

end Lockstep

namespace Simulation

variable {first : Environment ω₁ τ₁ π₁ ρ} {second : Environment ω₂ τ₂ π₂ ρ}
  (sim : Simulation first second)

/-- Two environments that answer alike are called alike: where each keeps a ledger, the same calls
are entered.  Transports are related if they have come at the same place in both runs. -/
def recorded (note₁ : τ₁ → ω₁ → ν₁) (note₂ : τ₂ → ω₂ → ν₂) (base₁ base₂ : List Call)
    (first₁ first₂ : Nat) : Simulation (first.recorded note₁) (second.recorded note₂) where
  worlds a b := sim.worlds a.world b.world ∧ Lockstep base₁ base₂ first₁ first₂ a b
  transports s t := sim.transports s.value t.value ∧
    ∃ n, s.number = first₁ + n ∧ t.number = first₂ + n
  states p q := sim.states p.value q.value ∧ p.number = q.number
  observe query htransports hworlds := sim.observe query htransports.1 hworlds.1
  perform {s t a b} action := by
    rintro ⟨htransports, n, hs, ht⟩ ⟨hworlds, hcalls⟩
    obtain ⟨reply, ⟨s', a'⟩, ⟨t', b'⟩, hfirst, hsecond, hcarried, hlater⟩ :=
      (sim.perform action htransports hworlds).answer
    simp only [Environment.recorded, hfirst, hsecond, hs, ht]
    exact ⟨rfl, ⟨hcarried, n, rfl, rfl⟩, hlater, hcalls.enter (.perform n action reply) ..⟩
  close {s t a b} := by
    rintro ⟨htransports, n, hs, ht⟩ ⟨hworlds, hcalls⟩
    obtain ⟨reply, ⟨s', a'⟩, ⟨t', b'⟩, hfirst, hsecond, hcarried, hlater⟩ :=
      (sim.close htransports hworlds).answer
    simp only [Environment.recorded, hfirst, hsecond, hs, ht]
    exact ⟨rfl, ⟨hcarried, n, rfl, rfl⟩, hlater, hcalls.enter (.close n reply) ..⟩
  create {p q a b} address := by
    rintro ⟨hstates, -⟩ ⟨hworlds, hcalls⟩
    obtain ⟨hcreated, hlater⟩ := sim.create address hstates hworlds
    exact ⟨⟨hcreated, hcalls.next⟩, hlater, hcalls.create ..⟩
  dial {p q s t a b} address := by
    rintro ⟨hstates, hhop⟩ ⟨htransports, n, hs, ht⟩ ⟨hworlds, hcalls⟩
    obtain ⟨ending, ⟨p', s', a'⟩, ⟨q', t', b'⟩, hfirst, hsecond, hstate, hcarried, hlater⟩ :=
      (sim.dial address hstates htransports hworlds).answer
    simp only [Environment.recorded, hfirst, hsecond, hs, ht, hhop]
    exact ⟨rfl, ⟨hstate, rfl⟩, ⟨hcarried, n, rfl, rfl⟩, hlater,
      hcalls.enter (.dial q.number n ending) ..⟩
  markReached {p q a b} address := by
    rintro ⟨hstates, hhop⟩ ⟨hworlds, hcalls⟩
    obtain ⟨hmarked, hlater⟩ := sim.markReached address hstates hworlds
    simp only [Environment.recorded, hhop]
    exact ⟨⟨hmarked, rfl⟩, hlater, hcalls.enter (.mark q.number) ..⟩
  request {p q s t a b} address target := by
    rintro ⟨hstates, hhop⟩ ⟨htransports, n, hs, ht⟩ ⟨hworlds, hcalls⟩
    obtain ⟨ending, ⟨p', s', a'⟩, ⟨q', t', b'⟩, hfirst, hsecond, hstate, hcarried, hlater⟩ :=
      (sim.request address target hstates htransports hworlds).answer
    simp only [Environment.recorded, hfirst, hsecond, hs, ht, hhop]
    exact ⟨rfl, ⟨hstate, rfl⟩, ⟨hcarried, n, rfl, rfl⟩, hlater,
      hcalls.enter (.request q.number target n ending) ..⟩
  lookup {a b} resolver host := by
    rintro ⟨hworlds, hcalls⟩
    obtain ⟨ending, a', b', hfirst, hsecond, hlater⟩ := (sim.lookup resolver host hworlds).answer
    simp only [Environment.recorded, hfirst, hsecond]
    exact ⟨rfl, hlater, hcalls.enter (.lookup host ending) ..⟩
  systemResolver := sim.systemResolver
  log {a b} record := by
    rintro ⟨hworlds, hcalls⟩
    exact ⟨sim.log record hworlds, hcalls.write record ..⟩

/-- Numbering proxies keeps them related. -/
theorem numberFrom_related (note₁ : τ₁ → ω₁ → ν₁) (note₂ : τ₂ → ω₂ → ν₂) {base₁ base₂ : List Call}
    {first₁ first₂ : Nat} {ps : List (Proxy π₁)} {qs : List (Proxy π₂)}
    (h : List.Forall₂ sim.Proxies ps qs) (n : Nat) :
    List.Forall₂ (sim.recorded note₁ note₂ base₁ base₂ first₁ first₂).Proxies
      (Route.numberFrom n ps) (Route.numberFrom n qs) := by
  induction h generalizing n with
  | nil => exact .nil
  | cons hproxy hproxies ih => exact .cons ⟨hproxy.address, hproxy.state, rfl⟩ (ih (n + 1))

/-- Numbering the proxies of routes keeps them related. -/
theorem numbered_related (note₁ : τ₁ → ω₁ → ν₁) (note₂ : τ₂ → ω₂ → ν₂) {base₁ base₂ : List Call}
    {first₁ first₂ : Nat} {r : Route π₁} {r' : Route π₂} (h : sim.Routes r r') :
    (sim.recorded note₁ note₂ base₁ base₂ first₁ first₂).Routes r.numbered r'.numbered :=
  ⟨⟨h.head.address, h.head.state, rfl⟩, sim.numberFrom_related note₁ note₂ h.rest 1⟩

end Simulation

/-! ## An environment and itself -/

/-- An environment answers like itself.  Together with `recorded` this compares two runs in one
environment that start differently. -/
def Simulation.refl {ω τ π ρ : Type} (env : Environment ω τ π ρ) : Simulation env env where
  worlds := Eq
  transports := Eq
  states := Eq
  observe query := by
    intro htransports hworlds
    rw [htransports, hworlds]
  perform action := by
    intro htransports hworlds
    rw [htransports, hworlds]
    exact ⟨rfl, rfl, rfl⟩
  close {s t a b} := by
    intro htransports hworlds
    rw [htransports, hworlds]
    exact ⟨rfl, rfl, rfl⟩
  create address := by
    intro hstates hworlds
    rw [hstates, hworlds]
    exact ⟨rfl, rfl⟩
  dial address := by
    intro hstates htransports hworlds
    rw [hstates, htransports, hworlds]
    exact ⟨rfl, rfl, rfl, rfl⟩
  markReached address := by
    intro hstates hworlds
    rw [hstates, hworlds]
    exact ⟨rfl, rfl⟩
  request address target := by
    intro hstates htransports hworlds
    rw [hstates, htransports, hworlds]
    exact ⟨rfl, rfl, rfl, rfl⟩
  lookup resolver host := by
    intro hworlds
    rw [hworlds]
    exact ⟨rfl, rfl⟩
  systemResolver := rfl
  log record := congrArg (env.log record)

namespace Simulation

variable {ω τ π ρ ν : Type} {env : Environment ω τ π ρ} {note : τ → ω → ν}
  {base base' : List Call} {x y : Tunnel (Numbered τ) (Numbered π) ρ}

theorem refl_tunnels (x : Tunnel (Numbered τ) (Numbered π) ρ) :
    ((refl env).recorded note note base base' 0 0).Tunnels x x where
  route := ⟨⟨rfl, rfl, rfl⟩, List.forall₂_same.mpr fun _ _ => ⟨rfl, rfl, rfl⟩⟩
  transport := by
    cases x.transport with
    | none => exact .none
    | some held => exact .some ⟨rfl, held.number, (Nat.zero_add _).symm, (Nat.zero_add _).symm⟩
  destination := rfl
  phase := rfl
  prefersIpv4 := rfl
  resolver := rfl
  timeout := rfl
  settings := rfl

/-- Proxies that are alike are the same. -/
theorem eq_of_refl_proxies {p q : Proxy (Numbered π)}
    (h : ((refl env).recorded note note base base' 0 0).Proxies p q) : p = q := by
  obtain ⟨address, number, state⟩ := p
  obtain ⟨address', number', state'⟩ := q
  obtain ⟨haddress, hstate, hnumber⟩ := h
  obtain rfl : address = address' := haddress
  obtain rfl : state = state' := hstate
  obtain rfl : number = number' := hnumber
  rfl

/-- Tunnels that are alike are the same. -/
theorem eq_of_refl_tunnels (h : ((refl env).recorded note note base base' 0 0).Tunnels x y) :
    x = y := by
  obtain ⟨⟨head, rest⟩, transport, destination, phase, prefersIpv4, resolver, timeout, settings⟩ :=
    x
  obtain ⟨⟨head', rest'⟩, transport', _, _, _, _, _, _⟩ := y
  obtain ⟨⟨hhead, hrest⟩, htransport, hdestination, hphase, hprefers, hresolver, htimeout,
    hsettings⟩ := h
  dsimp only at hdestination hphase hprefers hresolver htimeout hsettings
  subst hdestination hphase hprefers hresolver htimeout hsettings
  obtain rfl : head = head' := eq_of_refl_proxies hhead
  obtain rfl : rest = rest' := by
    have hsame := hrest.imp fun _ _ => eq_of_refl_proxies
    rwa [List.forall₂_eq_eq_eq] at hsame
  obtain rfl : transport = transport' := by
    dsimp only at htransport
    cases htransport with
    | none => rfl
    | @some s t hheld =>
        obtain ⟨number, value⟩ := s
        obtain ⟨number', value'⟩ := t
        obtain ⟨hvalue, n, hnumber, hnumber'⟩ := hheld
        obtain rfl : value = value' := hvalue
        obtain rfl : number = number' := hnumber.trans hnumber'.symm
        rfl
  rfl

end Simulation

end RelayRoute
