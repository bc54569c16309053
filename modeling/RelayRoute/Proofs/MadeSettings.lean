import RelayRoute.Proofs.Course
import RelayRoute.Proofs.PendingSettings
import RelayRoute.Proofs.Simulation
import RelayRoute.Scripted.Reach

/-!
# Settings are made in one way

Settings are made on a transport (`Environment.make`) and on a socket that is about to be connected
(`Tcp.prepareAll`).  Both try those that are to be set in the order of the options, up to the first
that fails, as `Makes` says.  So where the transport and the socket answer alike, the same settings
are tried, and both ways come to the same.

* `AnswersAlike` — a transport and a socket that give the same reply to every setting, and do so
  again after that;
* `AnswersAlike.makes` — the same settings are then tried on both, with the same replies;
* `Environment.Optionless.makeEach` — a transport without options of its own takes all settings;
* `Tcp.makeEach_connected` — a connected TCP transport makes settings on its stream;
* `makes_settings_in_order` — the main result, which also says that what is tried are the fields
  that are set (`Settings.fields`), each once and with its own value.
-/

namespace RelayRoute

/-- Where nothing is set, settings that are made are what is set. -/
theorem Settings.override_empty (settings : Settings) :
    ({} : Settings).override settings = settings := by
  simp [Settings.override]

/-! ## Transports and sockets -/

section

variable {ω υ τ κ σ π ρ ν : Type} {env : Environment ω τ π ρ} {network : Network υ κ σ}

/-- Whatever is set, a transport in its world and a socket in another give the same reply, and are
alike again after that. -/
def AnswersAlike (env : Environment ω τ π ρ) (network : Network υ κ σ) (socket : κ)
    (alike : τ × ω → υ → Prop) : Prop :=
  ∀ ⦃transport world other⦄ setting, alike (transport, world) other →
    Both Eq alike (env.perform (.set setting) transport world)
      (network.prepare setting socket other)

/-- Where they are alike, the same settings are tried and the same comes of it.  The induction is on
the settings: a setting that fails ends both ways, and after one that is made transport and socket
are alike again. -/
theorem AnswersAlike.makes {socket : Numbered κ} {alike : τ × ω → υ → Prop}
    (h : AnswersAlike env network socket.value alike) {note : τ → ω → ν}
    {settings : List Setting} {transport carried : Numbered τ} {ledger later : Ledger ω ν}
    {other after : NetworkLedger υ} {reply reply' : Except IoFault Unit}
    (started : alike (transport.value, ledger.world) other.world)
    (made : (env.recorded note).makeEach settings transport ledger = (reply, carried, later))
    (prepared : Tcp.prepareAll network.recorded socket settings other = (reply', after)) :
    reply = reply' ∧ alike (carried.value, later.world) after.world ∧
      ∃ tried, later.calls = ledger.calls ++ Call.making transport.number tried ∧
        after.calls = other.calls ++ NetworkCall.preparing socket.number tried ∧
        Makes settings tried reply := by
  induction settings generalizing transport ledger other with
  | nil =>
      obtain ⟨rfl, rfl, rfl⟩ := by simpa [Environment.makeEach] using made
      obtain ⟨rfl, rfl⟩ := by simpa [Tcp.prepareAll] using prepared
      exact ⟨rfl, started, [], (List.append_nil _).symm, (List.append_nil _).symm, .whole⟩
  | cons setting settings ih =>
      obtain ⟨answer, ⟨value, world⟩, world', hset, hprepare, hafter⟩ := (h setting started).answer
      simp only [Environment.makeEach, Environment.recorded, hset] at made
      simp only [Tcp.prepareAll, Network.recorded, hprepare] at prepared
      cases answer with
      | error fault =>
          obtain ⟨rfl, rfl, rfl⟩ := by simpa using made
          obtain ⟨rfl, rfl⟩ := by simpa using prepared
          exact ⟨rfl, hafter, _, Ledger.calls_enter _ _ _ _ _, rfl,
            .refused setting settings fault⟩
      | ok _ =>
          obtain ⟨hreply, hlater, tried, hmade, hprepared, hmakes⟩ := ih hafter made prepared
          refine ⟨hreply, hlater, (setting, .ok ()) :: tried, ?_, ?_, hmakes.cons setting⟩
          · rw [hmade, Ledger.calls_enter, List.append_assoc]
            rfl
          · rw [hprepared, NetworkLedger.enter, List.append_assoc]
            rfl

/-- A transport has a stream and no options of its own: whatever such a transport need not do itself
is answered for it, and changes nothing. -/
def Environment.Optionless (env : Environment ω τ π ρ) (transport : τ) : Prop :=
  ∀ action reply world, action.optionless? = some reply →
    env.perform action transport world = (reply, transport, world)

/-- Such a transport takes all settings, and is what it was. -/
theorem Environment.Optionless.makeEach {transport : τ} (h : env.Optionless transport)
    (settings : List Setting) (world : ω) :
    env.makeEach settings transport world = (.ok (), transport, world) := by
  induction settings with
  | nil => rfl
  | cons setting settings ih =>
      have hset : env.perform (.set setting) transport world = (.ok (), transport, world) :=
        h (.set setting) (.ok ()) world rfl
      simp only [Environment.makeEach, hset]
      exact ih

/-- Settings are made on the stream of a connected TCP transport as on a socket on which each of
them comes to the same. -/
theorem Tcp.makeEach_connected {env : Environment υ (Tcp σ) π ρ} {tcp : Tcp σ} {stream : σ}
    {socket : κ} (connected : tcp.state = .connected stream)
    (same : ∀ setting world, network.set setting stream world =
      network.prepare setting socket world) (settings : List Setting) (world : υ) :
    (env.overTcp network).makeEach settings tcp world =
      let (reply, later) := prepareAll network socket settings world
      (reply, tcp, later) := by
  induction settings generalizing world with
  | nil => rfl
  | cons setting settings ih =>
      rcases hprepare : network.prepare setting socket world with ⟨reply, later⟩
      have hset : (env.overTcp network).perform (.set setting) tcp world = (reply, tcp, later) := by
        show setOption network setting tcp world = _
        simp only [setOption, connected, same, hprepare]
      simp only [Environment.makeEach, hset, prepareAll, hprepare]
      cases reply with
      | ok _ => exact ih later
      | error fault => rfl

end

/-! ### Transports and networks that refuse a setting -/

namespace Scripted

/-- A network and a script that both refuse to set how long a connection lingers. -/
def unlingering : Reach :=
  { refused := [.linger] }

/-- A transport with options, one of which cannot be set. -/
def unlingeringScript : TransportScript :=
  { ability := .full, failures := [("set_linger", .invalidInput)] }

/-- A transport with that script answers like a socket of that network. -/
theorem unlingering_answersAlike : AnswersAlike environment unlingering.network .v4
    fun held _ => ∃ puppet, held.1 = .scripted puppet ∧ puppet.script = unlingeringScript := by
  intro transport world other setting ⟨puppet, hcarrier, hscript⟩
  obtain rfl : transport = .scripted puppet := hcarrier
  have hpermit : puppet.permit (actionName (.set setting)) =
      unlingering.settingReply setting := by
    obtain ⟨option, value⟩ := setting
    rw [Puppet.permit, hscript]
    cases option <;> rfl
  have hability : puppet.script.ability = .full := by
    rw [hscript]
    rfl
  have hperform : puppet.perform (.set setting) world =
      puppet.performFull world (.set setting) := by
    simp only [Puppet.perform, hability]
  show Both Eq _ (Carrier.perform (.set setting) (.scripted puppet) world)
    (unlingering.settingReply setting, other)
  simp only [Carrier.perform, hperform, Puppet.performFull, Puppet.attempt, hpermit]
  cases unlingering.settingReply setting with
  | ok _ => exact ⟨rfl, _, rfl, hscript⟩
  | error fault => exact ⟨rfl, _, rfl, hscript⟩

/-- A plain transport has no options of its own. -/
theorem plain_optionless {puppet : Puppet} (h : puppet.script.ability = .plain) :
    environment.Optionless (.scripted puppet) := by
  intro action reply world hreply
  have hperform : puppet.perform action world = (reply, puppet, world) := by
    simp only [Puppet.perform, h, hreply]
  show Carrier.perform action (.scripted puppet) world = _
  simp only [Carrier.perform, hperform]

end Scripted

section

variable {ω υ τ κ σ π ρ ν : Type} (env : Environment ω τ π ρ) (network : Network υ κ σ)

/-- **Settings are made in one way.**  The fields that are set, each once and with its own value,
are tried in their order up to the first that fails, whether they are made on a transport or on a
socket, and the reply is that of the last one; no other option is touched.  Where the transport and
the socket answer alike, the same settings are tried in both ways, with the same replies.

So a TCP transport that is connected makes settings as a socket does on which each of them comes to
the same, and one that is idle keeps them for the sockets to come.  A transport without options of
its own takes all settings, and nothing about it changes. -/
theorem makes_settings_in_order (note : τ → ω → ν) {π' ρ' : Type}
    (tcpEnv : Environment υ (Tcp σ) π' ρ') (settings : Settings) :
    ((settings.fields.map Setting.option).Nodup ∧ ∀ setting, setting ∈ settings.fields ↔
      settings.get setting.option = some setting.value) ∧
    (∀ (transport : Numbered τ) (ledger : Ledger ω ν),
      let (reply, _, later) := (env.recorded note).make settings transport ledger
      ∃ tried, Makes settings.fields tried reply ∧
        later.calls = ledger.calls ++ Call.making transport.number tried) ∧
    (∀ (socket : Numbered κ) (ledger : NetworkLedger υ),
      let (reply, later) := Tcp.prepareAll network.recorded socket settings.toList ledger
      ∃ tried, Makes settings.fields tried reply ∧
        later.calls = ledger.calls ++ NetworkCall.preparing socket.number tried) ∧
    (∀ (socket : Numbered κ) (alike : τ × ω → υ → Prop),
      AnswersAlike env network socket.value alike →
      ∀ (transport : Numbered τ) (ledger : Ledger ω ν) (other : NetworkLedger υ),
        alike (transport.value, ledger.world) other.world →
        let (reply, carried, later) := (env.recorded note).make settings transport ledger
        let (reply', after) := Tcp.prepareAll network.recorded socket settings.toList other
        reply = reply' ∧ alike (carried.value, later.world) after.world ∧
          ∃ tried, Makes settings.fields tried reply ∧
            later.calls = ledger.calls ++ Call.making transport.number tried ∧
            after.calls = other.calls ++ NetworkCall.preparing socket.number tried) ∧
    (∀ (tcp : Tcp σ) stream (socket : κ) world, tcp.state = .connected stream →
      (∀ setting world, network.set setting stream world =
        network.prepare setting socket world) →
      (tcpEnv.overTcp network).make settings tcp world =
        let (reply, later) := Tcp.prepareAll network socket settings.toList world
        (reply, tcp, later)) ∧
    (∀ (tcp : Tcp σ) world, tcp.state = .idle → tcp.settings = {} →
      (tcpEnv.overTcp network).make settings tcp world = (.ok (), { tcp with settings }, world)) ∧
    ∀ transport world, env.Optionless transport →
      env.make settings transport world = (.ok (), transport, world) := by
  have hfields := settings.toList_eq_fields
  refine ⟨⟨settings.nodup_fields, fun _ => Settings.mem_fields⟩, ?_, ?_, ?_, ?_, ?_, ?_⟩
  · intro transport ledger
    rcases hmade : (env.recorded note).make settings transport ledger with ⟨reply, carried, later⟩
    obtain ⟨-, tried, hmakes, hcalls⟩ := env.makeEach_calls note hmade
    rw [hfields] at hmakes
    exact ⟨tried, hmakes, hcalls⟩
  · intro socket ledger
    rcases hprepared : Tcp.prepareAll network.recorded socket settings.toList ledger with
      ⟨reply, later⟩
    obtain ⟨-, tried, hmakes, hcalls⟩ := Tcp.prepareAll_calls network hprepared
    rw [hfields] at hmakes
    exact ⟨tried, hmakes, hcalls⟩
  · intro socket alike hanswers transport ledger other hstarted
    rcases hmade : (env.recorded note).make settings transport ledger with ⟨reply, carried, later⟩
    rcases hprepared : Tcp.prepareAll network.recorded socket settings.toList other with
      ⟨reply', after⟩
    obtain ⟨hreply, hlater, tried, hcalls, hcalls', hmakes⟩ :=
      hanswers.makes hstarted hmade hprepared
    rw [hfields] at hmakes
    exact ⟨hreply, hlater, tried, hmakes, hcalls, hcalls'⟩
  · intro tcp stream socket world hconnected hsame
    exact Tcp.makeEach_connected hconnected hsame settings.toList world
  · intro tcp world hidle hnothing
    calc (tcpEnv.overTcp network).make settings tcp world
        = (.ok (), { tcp with settings := tcp.settings.putEach settings.toList }, world) :=
          Tcp.makeEach_idle tcpEnv network hidle settings.toList world
      _ = (.ok (), { tcp with settings }, world) := by
          rw [Settings.putEach_toList, hnothing, Settings.override_empty]
  · intro transport world hoptionless
    exact hoptionless.makeEach settings.toList world

end

open Scripted in
/-- Where lingering is refused, nothing is tried after it, neither on a transport nor on a socket; a
connected TCP transport comes to the same as the socket, an idle one keeps the settings, and a plain
transport takes them all. -/
theorem makes_settings_unlingering :
    let settings : Settings :=
      { nodelay := some true, linger := some (.ofMilliseconds 5), trafficClass := some 8 }
    let refusal : Except IoFault Unit := .error (.bare .invalidInput)
    let held : Numbered Carrier := ⟨3, .scripted (.ofScript 3 unlingeringScript)⟩
    let plain : Carrier := .scripted (.ofScript 0 {})
    let address : SocketAddress := .v4 ⟨192, 0, 2, 1⟩ 1080
    let idle : Tcp SocketAddress := Tcp.ofSettings {}
    let connected : Tcp SocketAddress := { idle with state := .connected address }
    let dialing := unlingering.environment.overTcp unlingering.network
    settings.fields =
        [⟨.nodelay, true⟩, ⟨.linger, some (.ofMilliseconds 5)⟩, ⟨.trafficClass, 8⟩] ∧
      (∃ tried carried later after,
        (environment.recorded fun _ _ => ()).make settings held (.start {}) =
          (refusal, carried, later) ∧
        Tcp.prepareAll unlingering.network.recorded ⟨0, .v4⟩ settings.toList (.start {}) =
          (refusal, after) ∧
        Makes settings.fields tried refusal ∧ later.calls = Call.making 3 tried ∧
        after.calls = NetworkCall.preparing 0 tried) ∧
      dialing.make settings connected {} = (refusal, connected, {}) ∧
      dialing.make settings idle {} = (.ok (), { idle with settings }, {}) ∧
      environment.make settings plain {} = (.ok (), plain, {}) := by
  intro settings refusal held plain address idle connected dialing
  obtain ⟨-, -, -, halike, hconnected, hidle, hplain⟩ :=
    makes_settings_in_order environment unlingering.network (fun _ _ => ())
      unlingering.environment settings
  refine ⟨rfl, ?_, ?_, hidle idle {} rfl rfl, hplain plain {} (plain_optionless rfl)⟩
  · have hmeet := halike ⟨0, .v4⟩ _ unlingering_answersAlike held (.start {}) (.start {})
      ⟨_, rfl, rfl⟩
    obtain ⟨-, -, tried, hmakes, hlater, hafter⟩ := hmeet
    exact ⟨tried, _, _, _, rfl, rfl, hmakes, hlater, hafter⟩
  · exact hconnected connected address .v4 {} rfl fun _ _ => rfl

end RelayRoute
