import RelayRoute.Tcp
import RelayRoute.Proofs.Recording

/-!
# The calls of a dial

What a TCP transport does with the sockets that it opens does not show in what a dial gives back.
`Network.recorded` makes it visible, the way `Environment.recorded` does for transports: it behaves
like the network it is made of, but sockets are numbered as they are opened, and its world keeps a
list of what was called, with the answers.

* `Fitted` — the calls that try settings on a socket up to the first that is refused, which are
  those of `Makes` for this socket;
* `AddressDial` — the calls that dialing one address makes, and how they end;
* `Tcp.dialAddress_calls` — dialing an address makes the calls of `AddressDial`;
* `Equipped` — every socket gets all settings before anything else;
* `Tcp.dialEach_equipped`, `Tcp.connect_equipped` — dialing addresses, one after another, and so a
  whole dial, keeps `Equipped`.
-/

namespace RelayRoute

/-- A call to the network for a dial, with its answer, or a record of the log. -/
inductive NetworkCall
  | lookup (host : String) (port : UInt16) (ending : Ending DialFault (List SocketAddress))
  /-- A socket is opened; it is given a number. -/
  | opened (family : Family) (reply : Except IoFault Nat)
  | prepare (socket : Nat) (setting : Setting) (reply : Except IoFault Unit)
  | bind (socket : Nat) (address : SocketAddress) (reply : Except IoFault Unit)
  | connect (socket : Nat) (address : SocketAddress) (limit : Option Duration)
    (ending : Ending DialFault Unit)
  | record (record : LogRecord)

namespace NetworkCall

/-- The socket that a call opens or goes to. -/
def socket? : NetworkCall → Option Nat
  | .opened _ (.ok socket) | .prepare socket _ _ | .bind socket _ _ | .connect socket _ _ _ =>
    some socket
  | .opened _ (.error _) | .lookup _ _ _ | .record _ => none

/-- A socket is bound or connected. -/
def Uses : NetworkCall → Prop
  | .bind _ _ _ | .connect _ _ _ _ => True
  | _ => False

end NetworkCall

/-- A world, and what was called in it for a dial, earliest first. -/
structure NetworkLedger (ω : Type) where
  world : ω
  /-- The number of the next socket. -/
  next : Nat
  calls : List NetworkCall

namespace NetworkLedger

variable {ω : Type}

/-- A ledger without calls. -/
def start (world : ω) : NetworkLedger ω :=
  ⟨world, 0, []⟩

/-- Enters a call that leads to another world. -/
def enter (ledger : NetworkLedger ω) (call : NetworkCall) (world : ω) : NetworkLedger ω :=
  { ledger with world, calls := ledger.calls ++ [call] }

end NetworkLedger

/-- A network that keeps a ledger.  It answers as the network it is made of does, and a call is
entered when its answer is known; records of the log are entered as well. -/
def Network.recorded {ω κ σ : Type} (network : Network ω κ σ) :
    Network (NetworkLedger ω) (Numbered κ) σ where
  lookup host port limit ledger :=
    let (ending, world) := network.lookup host port limit ledger.world
    (ending, ledger.enter (.lookup host port ending) world)
  openSocket family ledger :=
    match network.openSocket family ledger.world with
    | (.ok socket, world) =>
      (.ok ⟨ledger.next, socket⟩,
        { ledger.enter (.opened family (.ok ledger.next)) world with next := ledger.next + 1 })
    | (.error fault, world) => (.error fault, ledger.enter (.opened family (.error fault)) world)
  prepare setting socket ledger :=
    let (reply, world) := network.prepare setting socket.value ledger.world
    (reply, ledger.enter (.prepare socket.number setting reply) world)
  bind address socket ledger :=
    let (reply, world) := network.bind address socket.value ledger.world
    (reply, ledger.enter (.bind socket.number address reply) world)
  connect address limit socket ledger :=
    let (ending, world) := network.connect address limit socket.value ledger.world
    (ending, ledger.enter (.connect socket.number address limit (ending.map fun _ => ())) world)
  localAddress stream ledger := network.localAddress stream ledger.world
  peerAddress stream ledger := network.peerAddress stream ledger.world
  get option stream ledger := network.get option stream ledger.world
  set setting stream ledger :=
    let (reply, world) := network.set setting stream ledger.world
    (reply, { ledger with world })
  shutdownInput stream ledger :=
    let (reply, world) := network.shutdownInput stream ledger.world
    (reply, { ledger with world })
  shutdownOutput stream ledger :=
    let (reply, world) := network.shutdownOutput stream ledger.world
    (reply, { ledger with world })
  sendUrgent byte stream ledger :=
    let (reply, world) := network.sendUrgent byte stream ledger.world
    (reply, { ledger with world })
  read most stream ledger :=
    let (reply, world) := network.read most stream ledger.world
    (reply, { ledger with world })
  write bytes stream ledger :=
    let (reply, world) := network.write bytes stream ledger.world
    (reply, { ledger with world })
  flush stream ledger :=
    let (reply, world) := network.flush stream ledger.world
    (reply, { ledger with world })
  finish stream ledger :=
    let (reply, world) := network.finish stream ledger.world
    (reply, { ledger with world })
  release stream ledger := { ledger with world := network.release stream ledger.world }
  log record ledger := ledger.enter (.record record) (network.log record ledger.world)

namespace Network

variable {ω κ σ : Type} {network : Network ω κ σ} {ledger : NetworkLedger ω} {world : ω}

/-- A lookup is entered with its answer. -/
theorem lookup_recorded {host : String} {port : UInt16} {limit : Option Duration}
    {answer : Ending DialFault (List SocketAddress)}
    (h : network.lookup host port limit ledger.world = (answer, world)) :
    network.recorded.lookup host port limit ledger =
      (answer, ledger.enter (.lookup host port answer) world) := by
  simp only [recorded, h]

/-- A socket that is opened gets the next number. -/
theorem openSocket_recorded {family : Family} {socket : κ}
    (h : network.openSocket family ledger.world = (.ok socket, world)) :
    network.recorded.openSocket family ledger = (.ok ⟨ledger.next, socket⟩,
      { ledger.enter (.opened family (.ok ledger.next)) world with next := ledger.next + 1 }) := by
  simp only [recorded, h]

end Network

/-! ## The calls for one address -/

/-- What was tried on a socket. -/
def NetworkCall.preparing (socket : Nat) (tried : List (Setting × Except IoFault Unit)) :
    List NetworkCall :=
  tried.map fun made => .prepare socket made.1 made.2

/-- The calls that fit a socket with settings, and how that ends: they are tried up to the first
that is refused. -/
def Fitted (n : Nat) (settings : List Setting) (made : List NetworkCall)
    (reply : Except IoFault Unit) : Prop :=
  ∃ tried, Makes settings tried reply ∧ made = NetworkCall.preparing n tried

/-- Fitting a socket with settings is all about that socket. -/
theorem Fitted.plain {n : Nat} {settings : List Setting} {made : List NetworkCall}
    {reply : Except IoFault Unit} (h : Fitted n settings made reply) :
    ∀ call ∈ made, ∃ setting reply, call = .prepare n setting reply := by
  obtain ⟨tried, -, rfl⟩ := h
  intro call hcall
  obtain ⟨setting, -, rfl⟩ := List.mem_map.mp hcall
  exact ⟨_, _, rfl⟩

/-- The calls for one address, the socket for which gets number `n`, and how they end. -/
inductive AddressDial {σ : Type} (tcp : Tcp σ) (address : SocketAddress) (n : Nat) :
    List NetworkCall → Ending DialFault Unit → Prop
  | unopened (fault : IoFault) :
    AddressDial tcp address n [.opened address.family (.error fault)] (.failed (.io fault))
  | refused {made : List NetworkCall} {fault : IoFault}
    (fitted : Fitted n tcp.settings.toList made (.error fault)) :
    AddressDial tcp address n (.opened address.family (.ok n) :: made) (.failed (.io fault))
  | unbound {made : List NetworkCall} {origin : SocketAddress} {fault : IoFault}
    (fitted : Fitted n tcp.settings.toList made (.ok ())) (chosen : tcp.origin = some origin) :
    AddressDial tcp address n
      (.opened address.family (.ok n) :: (made ++ [.bind n origin (.error fault)]))
      (.failed (.io fault))
  | dialed {made : List NetworkCall} {ending : Ending DialFault Unit}
    (fitted : Fitted n tcp.settings.toList made (.ok ())) :
    AddressDial tcp address n
      (.opened address.family (.ok n) :: (made ++
        (tcp.origin.toList.map fun origin => .bind n origin (.ok ())) ++
        [.connect n address tcp.timeout ending]))
      ending

namespace Tcp

variable {ω κ σ : Type} (network : Network ω κ σ)

/-- Making settings on a socket tries them up to the first that is refused.  The induction is on the
settings: a setting that is made is entered, and the others follow. -/
theorem prepareAll_calls {settings : List Setting} {socket : Numbered κ}
    {ledger later : NetworkLedger ω} {reply : Except IoFault Unit}
    (h : prepareAll network.recorded socket settings ledger = (reply, later)) :
    later.next = ledger.next ∧ ∃ tried, Makes settings tried reply ∧
      later.calls = ledger.calls ++ NetworkCall.preparing socket.number tried := by
  induction settings generalizing ledger with
  | nil =>
      obtain ⟨rfl, rfl⟩ := by simpa [prepareAll] using h
      exact ⟨rfl, [], .whole, by simp [NetworkCall.preparing]⟩
  | cons setting settings ih =>
      rcases hprepare : network.prepare setting socket.value ledger.world with ⟨answer, world⟩
      simp only [prepareAll, Network.recorded, hprepare] at h
      cases answer with
      | error fault =>
          obtain ⟨rfl, rfl⟩ := by simpa using h
          exact ⟨rfl, _, .refused setting settings fault, rfl⟩
      | ok _ =>
          obtain ⟨hnext, tried, hmakes, hmade⟩ := ih h
          refine ⟨hnext, _, hmakes.cons setting, ?_⟩
          rw [hmade, NetworkLedger.enter, List.append_assoc]
          rfl

/-- Binding a socket to the address that was chosen. -/
theorem bindOrigin_calls {origin : Option SocketAddress} {socket : Numbered κ}
    {ledger later : NetworkLedger ω} {reply : Except IoFault Unit}
    (h : bindOrigin network.recorded origin socket ledger = (reply, later)) :
    later.next = ledger.next ∧ later.calls =
      ledger.calls ++ origin.toList.map fun address => .bind socket.number address reply := by
  cases origin with
  | none =>
      obtain ⟨rfl, rfl⟩ := by simpa [bindOrigin] using h
      exact ⟨rfl, by simp⟩
  | some address =>
      rcases hbind : network.bind address socket.value ledger.world with ⟨answer, world⟩
      simp only [bindOrigin, Network.recorded, hbind] at h
      obtain ⟨rfl, rfl⟩ := by simpa using h
      exact ⟨rfl, rfl⟩

/-- Dialing an address makes the calls that `AddressDial` lists, and numbers at most one socket.
The cases are those of the dial: the socket cannot be opened, cannot be fitted or bound, and after
that the connection ends as it does. -/
theorem dialAddress_calls {tcp : Tcp σ} {address : SocketAddress}
    {ledger later : NetworkLedger ω} {ending : Ending DialFault σ}
    (h : dialAddress network.recorded tcp address ledger = (ending, later)) :
    ∃ made, later.calls = ledger.calls ++ made ∧ ledger.next ≤ later.next ∧
      (.opened address.family (.ok ledger.next) ∈ made → ledger.next < later.next) ∧
      AddressDial tcp address ledger.next made (ending.map fun _ => ()) := by
  rcases hopen : network.openSocket address.family ledger.world with ⟨opening, world⟩
  cases opening with
  | error fault =>
      simp only [dialAddress, Network.recorded, hopen] at h
      obtain ⟨rfl, rfl⟩ := by simpa using h
      exact ⟨_, rfl, Nat.le_refl _, by simp, .unopened fault⟩
  | ok socket =>
      let opened : NetworkLedger ω :=
        { ledger.enter (.opened address.family (.ok ledger.next)) world with
          next := ledger.next + 1 }
      have hopened : network.recorded.openSocket address.family ledger =
          (.ok ⟨ledger.next, socket⟩, opened) :=
        Network.openSocket_recorded hopen
      rcases hprepare : prepareAll network.recorded ⟨ledger.next, socket⟩ tcp.settings.toList
        opened with ⟨preparing, prepared⟩
      obtain ⟨hnext, tried, hmakes, hmade⟩ := prepareAll_calls network hprepare
      have hfitted : Fitted ledger.next tcp.settings.toList _ preparing := ⟨tried, hmakes, rfl⟩
      have hprepared : prepared.calls = ledger.calls ++ .opened address.family (.ok ledger.next) ::
          NetworkCall.preparing ledger.next tried := by
        rw [hmade]
        exact List.append_assoc ..
      simp only [dialAddress, hopened, hprepare] at h
      cases preparing with
      | error fault =>
          obtain ⟨rfl, rfl⟩ := by simpa using h
          have hlt : ledger.next < prepared.next := hnext ▸ Nat.lt_succ_self _
          exact ⟨_, hprepared, Nat.le_of_lt hlt, fun _ => hlt, .refused hfitted⟩
      | ok _ =>
          rcases hbind : bindOrigin network.recorded tcp.origin ⟨ledger.next, socket⟩ prepared
            with ⟨binding, bound⟩
          obtain ⟨hkept, hbound⟩ := bindOrigin_calls network hbind
          have hlt : ledger.next < bound.next := by
            rw [hkept, hnext]
            exact Nat.lt_succ_self _
          simp only [hbind] at h
          cases binding with
          | error fault =>
              obtain ⟨rfl, rfl⟩ := by simpa using h
              cases horigin : tcp.origin with
              | none =>
                  rw [horigin] at hbind
                  cases hbind
              | some origin =>
                  rw [horigin] at hbound
                  refine ⟨_, ?_, Nat.le_of_lt hlt, fun _ => hlt, .unbound hfitted horigin⟩
                  rw [hbound, hprepared, List.append_assoc]
                  rfl
          | ok _ =>
              rcases hconnect : network.connect address tcp.timeout socket bound.world
                with ⟨answer, finished⟩
              simp only [Network.recorded, hconnect] at h
              obtain ⟨rfl, rfl⟩ := by simpa using h
              refine ⟨_, ?_, Nat.le_of_lt hlt, fun _ => hlt, .dialed hfitted⟩
              simp only [NetworkLedger.enter]
              rw [hbound, hprepared, List.append_assoc, List.append_assoc, List.cons_append,
                List.append_assoc]

end Tcp

/-! ## The sockets of a dial -/

/-- Every socket gets all settings before anything else, up to the first that is refused, and is
left alone after that.  All sockets have numbers that are given away, so the next one has no calls
yet. -/
structure Equipped (settings : List Setting) (calls : List NetworkCall) (next : Nat) : Prop where
  lt {call : NetworkCall} {n : Nat} : call ∈ calls → call.socket? = some n → n < next
  first {family : Family} {n : Nat} : .opened family (.ok n) ∈ calls →
    ∃ made reply used, Fitted n settings made reply ∧
      callsTo NetworkCall.socket? n calls = .opened family (.ok n) :: (made ++ used) ∧
      (∀ call ∈ used, call.Uses) ∧ (reply ≠ .ok () → used = [])

namespace Equipped

variable {settings : List Setting} {calls made : List NetworkCall} {next next' : Nat}

/-- Before the first socket is opened. -/
theorem nothing : Equipped settings [] next where
  lt hcall := by cases hcall
  first hcall := by cases hcall

/-- Calls that go to no socket: lookups, records of the log, and sockets that could not be opened.
-/
theorem other (h : Equipped settings calls next) (hnone : ∀ call ∈ made, call.socket? = none)
    (hle : next ≤ next') : Equipped settings (calls ++ made) next' where
  lt {call n} hcall hn := by
    rcases List.mem_append.mp hcall with hcall | hcall
    · exact Nat.lt_of_lt_of_le (h.lt hcall hn) hle
    · rw [hnone call hcall] at hn
      cases hn
  first {family n} hopened := by
    rcases List.mem_append.mp hopened with hopened | hopened
    · have hmade : callsTo NetworkCall.socket? n made = [] := by
        refine callsTo_eq_nil fun call hcall hn => ?_
        rw [hnone call hcall] at hn
        cases hn
      rw [callsTo_append, hmade, List.append_nil]
      exact h.first hopened
    · cases hnone _ hopened

/-- A socket is opened, gets its settings, and is used if they are made. -/
theorem opened (h : Equipped settings calls next) {family : Family} {reply : Except IoFault Unit}
    {used : List NetworkCall} (fitted : Fitted next settings made reply)
    (uses : ∀ call ∈ used, call.Uses ∧ call.socket? = some next)
    (stops : reply ≠ .ok () → used = []) (hlt : next < next') :
    Equipped settings (calls ++ .opened family (.ok next) :: (made ++ used)) next' := by
  have hto : ∀ call ∈ NetworkCall.opened family (.ok next) :: (made ++ used),
      call.socket? = some next := by
    intro call hcall
    rcases List.mem_cons.mp hcall with rfl | hcall
    · rfl
    · rcases List.mem_append.mp hcall with hcall | hcall
      · obtain ⟨setting, answer, rfl⟩ := fitted.plain call hcall
        rfl
      · exact (uses call hcall).2
  refine ⟨fun {call n} hcall hn => ?_, fun {found n} hopened => ?_⟩
  · rcases List.mem_append.mp hcall with hcall | hcall
    · exact Nat.lt_trans (h.lt hcall hn) hlt
    · obtain rfl := Option.some.inj (hn.symm.trans (hto call hcall))
      exact hlt
  · rcases List.mem_append.mp hopened with hopened | hopened
    · have hother : n ≠ next := Nat.ne_of_lt (h.lt hopened rfl)
      have hmade : callsTo NetworkCall.socket? n (.opened family (.ok next) :: (made ++ used)) =
          [] := by
        refine callsTo_eq_nil fun call hcall hn => hother ?_
        exact Option.some.inj (hn.symm.trans (hto call hcall))
      rw [callsTo_append, hmade, List.append_nil]
      exact h.first hopened
    · obtain rfl : n = next := Option.some.inj (hto _ hopened)
      have hcalls : callsTo NetworkCall.socket? n calls = [] :=
        callsTo_eq_nil fun call hcall hn => absurd (h.lt hcall hn) (Nat.lt_irrefl n)
      obtain rfl : found = family := by
        rcases List.mem_cons.mp hopened with hfirst | hrest
        · cases hfirst
          rfl
        · rcases List.mem_append.mp hrest with hmade | hused
          · obtain ⟨setting, answer, hprepare⟩ := fitted.plain _ hmade
            cases hprepare
          · exact (uses _ hused).1.elim
      rw [callsTo_append, hcalls, callsTo_eq_self hto, List.nil_append]
      exact ⟨made, reply, used, fitted, rfl, fun call hcall => (uses call hcall).1, stops⟩

/-- The calls for one address keep every socket equipped: they go to the socket that is opened for
it, or to none. -/
theorem address {σ : Type} {tcp : Tcp σ} {address : SocketAddress}
    {ending : Ending DialFault Unit} (h : Equipped tcp.settings.toList calls next)
    (hdial : AddressDial tcp address next made ending) (hle : next ≤ next')
    (hlt : .opened address.family (.ok next) ∈ made → next < next') :
    Equipped tcp.settings.toList (calls ++ made) next' := by
  cases hdial with
  | unopened fault => exact h.other (by simp [NetworkCall.socket?]) hle
  | @refused set fault fitted =>
      have hopened : Equipped tcp.settings.toList
          (calls ++ .opened address.family (.ok next) :: (set ++ [])) next' :=
        h.opened fitted (by simp) (fun _ => rfl) (hlt List.mem_cons_self)
      rwa [List.append_nil] at hopened
  | unbound fitted chosen =>
      exact h.opened fitted (by simp [NetworkCall.Uses, NetworkCall.socket?])
        (fun hfailed => absurd rfl hfailed) (hlt List.mem_cons_self)
  | @dialed set _ fitted =>
      rw [List.append_assoc]
      refine h.opened fitted ?_ (fun hfailed => absurd rfl hfailed) (hlt List.mem_cons_self)
      intro call hcall
      rcases List.mem_append.mp hcall with hcall | hcall
      · obtain ⟨origin, -, rfl⟩ := List.mem_map.mp hcall
        exact ⟨trivial, rfl⟩
      · obtain rfl := List.mem_singleton.mp hcall
        exact ⟨trivial, rfl⟩

end Equipped

namespace Tcp

variable {ω κ σ : Type} (network : Network ω κ σ)

/-- **Dialing addresses, one after another**, keeps every socket equipped.  The induction is on the
addresses; a failure is remembered, and the next address is dialed with a socket of its own. -/
theorem dialEach_equipped (tcp : Tcp σ) (latest : IoFault) (addresses : List SocketAddress)
    {ledger : NetworkLedger ω} (h : Equipped tcp.settings.toList ledger.calls ledger.next) :
    Equipped tcp.settings.toList (dialEach network.recorded tcp latest addresses ledger).2.calls
      (dialEach network.recorded tcp latest addresses ledger).2.next := by
  induction addresses generalizing latest ledger with
  | nil => exact h
  | cons address addresses ih =>
      rcases hdial : dialAddress network.recorded tcp address ledger with ⟨ending, dialed⟩
      obtain ⟨made, hmade, hle, hlt, hcalls⟩ := dialAddress_calls network hdial
      have hdialed : Equipped tcp.settings.toList dialed.calls dialed.next := by
        rw [hmade]
        exact h.address hcalls hle hlt
      simp only [dialEach, hdial]
      split
      · split
        · rename_i fault reached heq
          cases heq
          refine ih fault ?_
          exact hdialed.other (by simp [NetworkCall.socket?]) (Nat.le_refl _)
        · exact hdialed
      · exact ih latest h

/-- Connecting a transport keeps every socket equipped: looking the host up goes to no socket, and
the addresses are dialed after that. -/
theorem connect_equipped (host : String) (port : UInt16) (tcp : Tcp σ)
    {ledger : NetworkLedger ω} (h : Equipped tcp.settings.toList ledger.calls ledger.next) :
    Equipped tcp.settings.toList (connect network.recorded host port tcp ledger).2.2.calls
      (connect network.recorded host port tcp ledger).2.2.next := by
  rcases hlookup : network.lookup host port tcp.timeout ledger.world with ⟨looked, world⟩
  have hsought : Equipped tcp.settings.toList
      (ledger.enter (.lookup host port looked) world).calls ledger.next :=
    h.other (by simp [NetworkCall.socket?]) (Nat.le_refl _)
  have hdialed : Equipped tcp.settings.toList (dial network.recorded tcp host port ledger).2.calls
      (dial network.recorded tcp host port ledger).2.next := by
    unfold dial
    simp only [Network.recorded, hlookup]
    cases looked with
    | done addresses => exact dialEach_equipped network tcp _ addresses hsought
    | failed fault => exact hsought
    | abandoned => exact hsought
  unfold connect
  generalize dial network.recorded tcp host port ledger = result at hdialed ⊢
  obtain ⟨ending, dialed⟩ := result
  split
  · exact h
  · exact h
  · cases ending with
    | done stream => exact hdialed.other (by simp [NetworkCall.socket?]) (Nat.le_refl _)
    | abandoned => exact hdialed
    | failed fault =>
        cases fault with
        | io fault => exact hdialed
        | expired =>
            dsimp only
            split <;> exact hdialed

end Tcp

end RelayRoute
