import RelayRoute.Proofs.Simulation
import RelayRoute.Proofs.Transports

/-!
# Rehearsals with plain transports

Where the transports of a rehearsal are plain ones, nothing depends on what has happened on the
stage: transports answer alike whatever their numbers are, and so do proxies that use no transport
while they are asked.  So a rehearsal is related to itself at any two moments, and can serve as a
concrete case of what is said about environments that answer alike.

* `Puppet.perform_renumber`, `close_renumber`, `connect_renumber` — transports that differ in
  nothing but their numbers do alike;
* `Hop.requestScripted_renumber` — so do proxies that are asked over them;
* `plainSimulation` — all calls put together.
-/

namespace RelayRoute.Scripted

namespace Puppet

/-- The transport with another number. -/
def renumber (puppet : Puppet) (number : Nat) : Puppet :=
  { puppet with number }

/-- Transports that differ in nothing but their numbers. -/
def Twins (puppet twin : Puppet) : Prop :=
  ∃ number, twin = puppet.renumber number

/-- What calls with twins come to. -/
abbrev Alike {β : Type} : β × Puppet × Stage → β × Puppet × Stage → Prop :=
  Both Eq (Both Twins fun _ _ => True)

variable (puppet : Puppet) (number : Nat) (stage stage' : Stage)

theorem observe_renumber (query : Query) : (puppet.renumber number).observe query =
    puppet.observe query := by
  cases query <;> rfl

theorem attempt_renumber (action : Action) (done : Puppet) :
    Alike (puppet.attempt stage action done)
      ((puppet.renumber number).attempt stage' action (done.renumber number)) := by
  have hpermit : (puppet.renumber number).permit (actionName action) =
      puppet.permit (actionName action) := rfl
  unfold attempt
  dsimp only
  rw [hpermit]
  cases puppet.permit (actionName action) <;> exact ⟨rfl, ⟨number, rfl⟩, trivial⟩

/-- Twins do alike: whatever is done with them on whatever stages, they reply the same and stay
twins, since only what is told to the stage depends on the number. -/
theorem perform_renumber (action : Action) :
    Alike (puppet.perform action stage) ((puppet.renumber number).perform action stage') := by
  have hfull : Alike (puppet.performFull stage action)
      ((puppet.renumber number).performFull stage' action) := by
    have hpermit (call : String) : (puppet.renumber number).permit call = puppet.permit call := rfl
    cases action with
    | setTimeout limit => exact ⟨rfl, ⟨number, rfl⟩, trivial⟩
    | read most =>
        simp only [performFull, hpermit]
        cases puppet.permit "read" <;> exact ⟨rfl, ⟨number, rfl⟩, trivial⟩
    | write bytes =>
        simp only [performFull, hpermit]
        cases puppet.permit "write" <;> exact ⟨rfl, ⟨number, rfl⟩, trivial⟩
    | bind address =>
        exact puppet.attempt_renumber number stage stage' (.bind address)
          { puppet with bound := some address }
    | shutdownInput =>
        exact puppet.attempt_renumber number stage stage' .shutdownInput
          { puppet with inputShutdown := true }
    | shutdownOutput =>
        exact puppet.attempt_renumber number stage stage' .shutdownOutput
          { puppet with outputShutdown := true }
    | set setting =>
        exact puppet.attempt_renumber number stage stage' (.set setting)
          { puppet with settings := puppet.settings.put setting.option setting.value }
    | _ => exact puppet.attempt_renumber number stage stage' _ puppet
  have hability : (puppet.renumber number).script = puppet.script := rfl
  unfold perform
  rw [hability]
  split
  · exact hfull
  · exact hfull
  · exact ⟨rfl, ⟨number, rfl⟩, trivial⟩

theorem close_renumber : Alike (puppet.close stage) ((puppet.renumber number).close stage') := by
  have hpermit : (puppet.renumber number).permit "close" = puppet.permit "close" := rfl
  unfold close
  dsimp only
  rw [hpermit]
  cases puppet.permit "close" <;> exact ⟨rfl, ⟨number, rfl⟩, trivial⟩

theorem connect_renumber (host : String) (port : UInt16) :
    Alike (puppet.connect host port stage) ((puppet.renumber number).connect host port stage') := by
  have hpermit : (puppet.renumber number).permit "connect" = puppet.permit "connect" := rfl
  have hclosed : (puppet.renumber number).closed = puppet.closed := rfl
  unfold connect
  dsimp only
  rw [hpermit, hclosed]
  cases puppet.permit "connect" with
  | error fault => exact ⟨rfl, ⟨number, rfl⟩, trivial⟩
  | ok _ => cases puppet.closed <;> exact ⟨rfl, ⟨number, rfl⟩, trivial⟩

end Puppet

/-- Scripted transports that differ in nothing but their numbers. -/
def Carrier.Twins (carrier twin : Carrier) : Prop :=
  ∃ puppet number, carrier = .scripted puppet ∧ twin = .scripted (puppet.renumber number)

/-- Copies of a scripted proxy that uses no transport while it is asked. -/
def Hop.Twins (hop twin : Hop) : Prop :=
  ∃ script asked, hop = .scripted script asked ∧ twin = .scripted script asked ∧
    script.during = .nothing

/-- Twins are used alike by a proxy that is asked. -/
theorem Hop.requestScripted_renumber (puppet : Puppet) (number : Nat) (script : HopScript)
    (asked : Bool) (target : Address) (stage stage' : Stage) (hduring : script.during = .nothing) :
    Both Eq (Both Carrier.Twins fun _ _ => True)
      (requestScripted script asked target (.scripted puppet) stage)
      (requestScripted script asked target (.scripted (puppet.renumber number)) stage') := by
  have hheld : Carrier.Twins (.scripted puppet) (.scripted (puppet.renumber number)) :=
    ⟨puppet, number, rfl, rfl⟩
  have hconnected : Carrier.observe .isConnected (.scripted (puppet.renumber number)) stage' =
      Carrier.observe .isConnected (.scripted puppet) stage :=
    puppet.observe_renumber number .isConnected
  unfold requestScripted
  rw [hconnected, hduring]
  split
  · exact ⟨rfl, hheld, trivial⟩
  · split
    · exact ⟨rfl, hheld, trivial⟩
    · exact ⟨rfl, hheld, trivial⟩

theorem Carrier.connect_renumber (puppet : Puppet) (number : Nat) (host : String) (port : UInt16)
    (stage stage' : Stage) :
    Both Eq (Both Carrier.Twins fun _ _ => True)
      ((Carrier.scripted puppet).connect host port stage)
      ((Carrier.scripted (puppet.renumber number)).connect host port stage') := by
  have hconnected := puppet.connect_renumber number stage stage' host port
  obtain ⟨reply, ⟨carried, later⟩, ⟨carried', later'⟩, hfirst, hsecond, ⟨number', rfl⟩, -⟩ :=
    hconnected.answer
  simp only [connect, hfirst, hsecond]
  cases reply <;> exact ⟨rfl, ⟨carried, number', rfl, rfl⟩, trivial⟩

/-- Where transports are plain ones, nothing depends on what has happened on the stage: any two
stages are related, and so are transports with different numbers. -/
def plainSimulation : Simulation plainEnvironment plainEnvironment where
  worlds _ _ := True
  transports := Carrier.Twins
  states := Hop.Twins
  observe query := by
    rintro ⟨puppet, number, rfl, rfl⟩ -
    exact (puppet.observe_renumber number query).symm
  perform {s t a b} action := by
    rintro ⟨puppet, number, rfl, rfl⟩ -
    obtain ⟨hreply, ⟨_, hcarried⟩, -⟩ := puppet.perform_renumber number a b action
    exact ⟨hreply, ⟨_, _, rfl, congrArg Carrier.scripted hcarried⟩, trivial⟩
  close {s t a b} := by
    rintro ⟨puppet, number, rfl, rfl⟩ -
    obtain ⟨hreply, ⟨_, hcarried⟩, -⟩ := puppet.close_renumber number a b
    exact ⟨hreply, ⟨_, _, rfl, congrArg Carrier.scripted hcarried⟩, trivial⟩
  create {p q a b} address := by
    rintro ⟨script, asked, rfl, rfl, -⟩ -
    exact ⟨⟨Puppet.ofScript a.created {}, b.created, rfl, rfl⟩, trivial⟩
  dial {p q s t a b} address := by
    rintro ⟨script, asked, rfl, rfl, hduring⟩ ⟨puppet, number, rfl, rfl⟩ -
    have hhop : Hop.Twins (.scripted script asked) (.scripted script asked) :=
      ⟨script, asked, rfl, rfl, hduring⟩
    have hheld : Carrier.Twins (.scripted puppet) (.scripted (puppet.renumber number)) :=
      ⟨puppet, number, rfl, rfl⟩
    have hconnected := Carrier.connect_renumber puppet number address.host.text address.port a b
    show Both Eq _ (Hop.dial ⟨address, .scripted script asked⟩ (.scripted puppet) a)
      (Hop.dial ⟨address, .scripted script asked⟩ (.scripted (puppet.renumber number)) b)
    unfold Hop.dial
    dsimp only
    cases script.dial with
    | usual => exact ⟨hconnected.1, hhop, hconnected.2⟩
    | _ => exact ⟨rfl, hhop, hheld, trivial⟩
  markReached {p q a b} address := by
    rintro ⟨script, asked, rfl, rfl, hduring⟩ -
    exact ⟨⟨script, asked, rfl, rfl, hduring⟩, trivial⟩
  request {p q s t a b} address target := by
    rintro ⟨script, asked, rfl, rfl, hduring⟩ ⟨puppet, number, rfl, rfl⟩ -
    have hhop : Hop.Twins (.scripted script true) (.scripted script true) :=
      ⟨script, true, rfl, rfl, hduring⟩
    have hheld : Carrier.Twins (.scripted puppet) (.scripted (puppet.renumber number)) :=
      ⟨puppet, number, rfl, rfl⟩
    have hasked := Hop.requestScripted_renumber puppet number script asked target
      (a.tell (.requested address target)) (b.tell (.requested address target)) hduring
    exact ⟨hasked.1, hhop, hasked.2⟩
  lookup {a b} resolver host := by
    rintro -
    show Both Eq _ (resolver.lookup host a) (resolver.lookup host b)
    cases resolver with
    | system =>
        unfold Resolver.lookup
        dsimp only
        cases literalAddresses host 0 <;> exact ⟨rfl, trivial⟩
    | listed hosts =>
        unfold Resolver.lookup
        dsimp only
        split <;> exact ⟨rfl, trivial⟩
  systemResolver := rfl
  log record := id

end RelayRoute.Scripted
