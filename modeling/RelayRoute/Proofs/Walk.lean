import RelayRoute.Proofs.Recording

/-!
# The calls of a walk

A walk over a route of `n` proxies dials the head and then asks proxies `0, 1, …, k`, each once and
each for its own stop: the address of the next proxy, and for the last one the target.  Proxy `k` is
the first that does not relay, or the last one of all.  Between two requests the next proxy is told
that it is reached, and there are no other calls.

`Route.Walked` says this as a relation between a route, a target, the calls and the ending, and
`Ending.blame` says what the answer of the last proxy that was asked means for the attempt.  The
proof goes along the recursion of the walk:

* `ask_calls` — asking one proxy is one call;
* `relay_calls` — the induction along the route, from a proxy that is reached on;
* `walk_calls` — the dial of the head in front of it;
* `walk_of_copy` — the main result, for a copy of any route in any world;
* `Walked.calls_of_done`, `Walked.isRejected_iff` — success means the whole journey, and an attempt
  is rejected exactly if a proxy rejected it.
-/

namespace RelayRoute

/-- What the answer of a proxy means for the attempt: whatever went wrong is put down to that proxy,
with its address, and an answer that was given up abandons the attempt. -/
def Ending.blame (proxy : Address) : Ending RelayFault Unit → Ending Failure Unit
  | .done () => .done ()
  | .failed fault => .failed (.relay proxy fault)
  | .abandoned => .abandoned

/-- An attempt is rejected exactly if the proxy that is blamed has rejected it. -/
theorem Ending.isRejected_of_blame {proxy : Address} {answer : Ending RelayFault Unit}
    {failure : Failure} (h : answer.blame proxy = .failed failure) :
    failure.isRejected = true ↔ ∃ text, answer = .failed (.rejected text) := by
  cases answer with
  | done value => simp [Ending.blame] at h
  | abandoned => simp [Ending.blame] at h
  | failed fault =>
      obtain rfl : Failure.relay proxy fault = failure := by simpa [Ending.blame] using h
      cases fault <;> simp [Failure.isRejected]

/-- Only a proxy that relays leads to success. -/
theorem Ending.blame_eq_done {proxy : Address} {answer : Ending RelayFault Unit} :
    answer.blame proxy = .done () ↔ answer = .done () := by
  cases answer <;> simp [Ending.blame]

namespace Route

variable {π : Type}

/-- What the proxies of a route are asked for, in order: each of them for the address of the next
one, and the last one for the target. -/
def stops (route : Route π) (target : Address) : List Address :=
  route.rest.map (·.address) ++ [target]

/-- The calls by which proxies, from the one numbered `hop` on, are asked for one stop after
another.  All but the last relay, and the next one is told so before it is asked. -/
def requests (transport : Nat) (last : Ending RelayFault Unit) : (hop : Nat) → List Address →
    List Call
  | _, [] => []
  | hop, [stop] => [.request hop stop transport last]
  | hop, stop :: next :: stops =>
    .request hop stop transport (.done ()) :: .mark (hop + 1) ::
      requests transport last (hop + 1) (next :: stops)

/-- Where more stops follow, the first proxy relays. -/
theorem requests_cons (transport : Nat) (last : Ending RelayFault Unit) (hop : Nat)
    (stop : Address) {stops : List Address} (h : stops ≠ []) :
    requests transport last hop (stop :: stops) =
      .request hop stop transport (.done ()) :: .mark (hop + 1) ::
        requests transport last (hop + 1) stops := by
  cases stops with
  | nil => exact absurd rfl h
  | cons next stops => rfl

/-- A failure is among the answers only if it is the last one. -/
theorem exists_request_failed_iff (transport hop : Nat) {last : Ending RelayFault Unit}
    {fault : RelayFault} {stops : List Address} (h : stops ≠ []) :
    (∃ asked stop, Call.request asked stop transport (.failed fault) ∈
      requests transport last hop stops) ↔ last = .failed fault := by
  induction stops generalizing hop with
  | nil => exact absurd rfl h
  | cons stop stops ih =>
      cases stops with
      | nil => simp [requests, eq_comm]
      | cons next stops =>
          rw [← ih (hop + 1) (by simp)]
          simp [requests]

/-- The calls that build a whole route: the dial of the head, and a request to every proxy, all of
which relay.  This is what a connected tunnel has to show. -/
def journey (route : Route π) (target : Address) (transport : Nat) : List Call :=
  .dial 0 transport (.done ()) :: requests transport (.done ()) 0 (route.stops target)

/-- What calls a walk over an unconnected transport makes, and how it ends.  All of them go to one
transport, and the ending is the answer to the last of them, put down to the proxy that gave it. -/
inductive Walked (route : Route π) (target : Address) (transport : Nat) :
    List Call → Ending Failure Unit → Prop
  /-- The head was not reached. -/
  | unreached (fault : IoFault) :
    Walked route target transport [.dial 0 transport (.failed fault)] (.failed (.io fault))
  /-- Whoever waited for the head gave up. -/
  | abandoned : Walked route target transport [.dial 0 transport .abandoned] .abandoned
  /-- The head was reached, and the proxies were asked up to the one numbered `k`. -/
  | asked {k : Nat} {hop : Proxy π} (answer : Ending RelayFault Unit)
    (is_hop : route.hops[k]? = some hop)
    (is_last : answer = .done () → k + 1 = route.length) :
    Walked route target transport
      (.dial 0 transport (.done ()) ::
        requests transport answer 0 ((route.stops target).take (k + 1)))
      (answer.blame hop.address)

/-- A walk that succeeds has built the whole route: the head was dialed and every proxy was asked
for its stop, in order and once. -/
theorem Walked.calls_of_done {route : Route π} {target : Address} {transport : Nat}
    {made : List Call} (h : route.Walked target transport made (.done ())) :
    made = route.journey target transport := by
  generalize hending : Ending.done () = ending at h
  cases h with
  | unreached fault => cases hending
  | abandoned => cases hending
  | @asked k hop answer is_hop is_last =>
      obtain rfl := Ending.blame_eq_done.mp hending.symm
      have hlength : (route.stops target).length ≤ k + 1 := by
        simp [stops, is_last rfl, length, hops]
      rw [journey, List.take_of_length_le hlength]

/-- A walk is rejected exactly if one of the proxies it asked rejected it.  A failure of another
kind, and a dial in vain, are no rejections. -/
theorem Walked.isRejected_iff {route : Route π} {target : Address} {transport : Nat}
    {made : List Call} {failure : Failure}
    (h : route.Walked target transport made (.failed failure)) :
    failure.isRejected = true ↔ ∃ hop stop text,
      Call.request hop stop transport (.failed (.rejected text)) ∈ made := by
  generalize hending : Ending.failed failure = ending at h
  cases h with
  | unreached fault =>
      obtain rfl : failure = .io fault := by simpa using hending
      simp [Failure.isRejected]
  | abandoned => cases hending
  | @asked k hop answer is_hop is_last =>
      have hstops : (route.stops target).take (k + 1) ≠ [] := by simp [stops]
      rw [Ending.isRejected_of_blame hending.symm]
      simp only [List.mem_cons, reduceCtorEq, false_or]
      constructor
      · rintro ⟨text, hanswer⟩
        obtain ⟨asked, stop, hmem⟩ := (exists_request_failed_iff transport 0 hstops).mpr hanswer
        exact ⟨asked, stop, text, hmem⟩
      · rintro ⟨asked, stop, text, hmem⟩
        exact ⟨text, (exists_request_failed_iff transport 0 hstops).mp ⟨asked, stop, hmem⟩⟩

end Route

namespace Environment

variable {ω τ π ρ ν : Type} (env : Environment ω τ π ρ) (note : τ → ω → ν)

/-- Asking a proxy is one call, to that proxy and over the transport that is given, and the answer
means what `Ending.blame` makes of it. -/
theorem ask_calls {hop hop' : Proxy (Numbered π)} {target : Address}
    {transport transport' : Numbered τ} {ledger ledger' : Ledger ω ν} {ending : Ending Failure Unit}
    (h : (env.recorded note).ask hop target transport ledger =
      (ending, hop', transport', ledger')) :
    transport'.number = transport.number ∧
      ∃ answer : Ending RelayFault Unit, ending = answer.blame hop.address ∧
        ledger'.calls =
          ledger.calls ++ [.request hop.state.number target transport.number answer] := by
  rcases hr : env.request ⟨hop.address, hop.state.value⟩ target transport.value
      (env.log (.asking hop.address target) ledger.world) with ⟨answer, state, value, world⟩
  simp only [ask, recorded, Ledger.world_write, hr] at h
  cases answer with
  | done value =>
      obtain ⟨rfl, -, rfl, rfl⟩ := by simpa using h
      exact ⟨rfl, .done (), rfl, by simp⟩
  | failed fault =>
      obtain ⟨rfl, -, rfl, rfl⟩ := by simpa using h
      exact ⟨rfl, .failed fault, rfl, by simp⟩
  | abandoned =>
      obtain ⟨rfl, -, rfl, rfl⟩ := by simpa using h
      exact ⟨rfl, .abandoned, rfl, by simp⟩

/-- A proxy that does not relay ends the walk: what it answered is what the walk comes to, and no
proxy behind it is told or asked. -/
theorem relay_of_ask_ne_done {env : Environment ω τ π ρ} {target : Address}
    {reached next hop : Proxy π} {others : List (Proxy π)} {transport carried : τ}
    {world asked : ω} {reply : Ending Failure Unit}
    (h : env.ask reached next.address transport world = (reply, hop, carried, asked))
    (hreply : reply ≠ .done ()) :
    env.relay target reached (next :: others) transport world =
      (reply, ⟨hop, next :: others⟩, carried, asked) := by
  simp only [relay, h]

/-- From a proxy that is reached on, the proxies are asked in order up to one that is blamed for the
ending; if it relayed it is the last one.  The induction is along the proxies that are left: a proxy
that relays is one request, the next one is told, and the rest is walked from there. -/
theorem relay_calls {target : Address} {others : List (Proxy π)} (reached : Proxy (Numbered π))
    {transport transport' : Numbered τ} {ledger ledger' : Ledger ω ν} {ending : Ending Failure Unit}
    {walked : Route (Numbered π)}
    (h : (env.recorded note).relay target reached
        (Route.numberFrom (reached.state.number + 1) others) transport ledger =
      (ending, walked, transport', ledger')) :
    transport'.number = transport.number ∧
      ∃ (k : Nat) (blamed : Address) (answer : Ending RelayFault Unit),
        (reached.address :: others.map (·.address))[k]? = some blamed ∧
        ending = answer.blame blamed ∧
        (answer = .done () → k = others.length) ∧
        ledger'.calls = ledger.calls ++
          Route.requests transport.number answer reached.state.number
            ((others.map (·.address) ++ [target]).take (k + 1)) := by
  induction others generalizing reached transport transport' ledger ledger' ending walked with
  | nil =>
      rcases ha : (env.recorded note).ask reached target transport ledger with
        ⟨reply, hop, carried, asked⟩
      obtain ⟨hnumber, answer, hreply, hcalls⟩ := ask_calls env note ha
      simp only [Route.numberFrom, relay, ha] at h
      obtain ⟨rfl, -, rfl, rfl⟩ := by simpa using h
      exact ⟨hnumber, 0, reached.address, answer, rfl, hreply, fun _ => rfl, by
        simpa [Route.requests] using hcalls⟩
  | cons next others ih =>
      rcases ha : (env.recorded note).ask reached next.address transport ledger with
        ⟨reply, hop, carried, asked⟩
      obtain ⟨hnumber, answer, hreply, hcalls⟩ := ask_calls env note ha
      rw [Route.numberFrom] at h
      by_cases hdone : answer = .done ()
      · subst hdone
        obtain rfl : reply = .done () := hreply
        rcases hm : env.markReached ⟨next.address, next.state⟩ asked.world with ⟨state, world⟩
        rcases hw : (env.recorded note).relay target
            ⟨next.address, ⟨reached.state.number + 1, state⟩⟩
            (Route.numberFrom (reached.state.number + 1 + 1) others) carried
            (asked.enter (.mark (reached.state.number + 1)) none none world)
          with ⟨ending₁, further, transport₁, ledger₁⟩
        obtain ⟨hcarried, k, blamed, answer, hblamed, hending, hlast, hmade⟩ := ih _ hw
        simp only [relay, ha] at h
        simp only [recorded, hm] at h hw
        simp only [hw] at h
        obtain ⟨rfl, -, rfl, rfl⟩ := by simpa using h
        refine ⟨hcarried.trans hnumber, k + 1, blamed, answer, hblamed, hending, ?_, ?_⟩
        · intro hanswer
          simp [hlast hanswer]
        · rw [hmade, Ledger.calls_enter, hcalls, hnumber, List.map_cons, List.cons_append,
            List.take_succ_cons, Route.requests_cons _ _ _ _ (by simp)]
          simp
      · have hreply' : reply ≠ .done () := by
          rw [hreply]
          exact fun hblame => hdone (Ending.blame_eq_done.mp hblame)
        rw [relay_of_ask_ne_done ha hreply'] at h
        obtain ⟨rfl, -, rfl, rfl⟩ := by simpa using h
        exact ⟨hnumber, 0, reached.address, answer, rfl, hreply, fun hd => absurd hd hdone, by
          simpa [Route.requests] using hcalls⟩

/-- A walk over an unconnected transport makes the calls that `Route.Walked` says, all of them over
that transport, and ends as it says. -/
theorem walk_calls {route : Route π} {target : Address} {transport transport' : Numbered τ}
    {ledger ledger' : Ledger ω ν} {ending : Ending Failure Unit} {walked : Route (Numbered π)}
    (h : (env.recorded note).walk route.numbered target transport ledger =
      (ending, walked, transport', ledger'))
    (hidle : env.observe .isConnected transport.value ledger.world = false) :
    transport'.number = transport.number ∧
      ∃ made, ledger'.calls = ledger.calls ++ made ∧
        route.Walked target transport.number made ending := by
  rcases hd : env.dial route.head transport.value ledger.world with ⟨reply, state, value, world⟩
  obtain ⟨dialed, hdial, hcalls⟩ : ∃ dialed,
      (env.recorded note).dial route.numbered.head transport ledger =
        (reply, ⟨0, state⟩, ⟨transport.number, value⟩, dialed) ∧
      dialed.calls = ledger.calls ++ [.dial 0 transport.number reply] := by
    refine ⟨_, ?_, Ledger.calls_enter ledger _ (some (note transport.value ledger.world))
      (some (note value world)) world⟩
    simp only [recorded, Route.numbered, hd]
  have hobserve : (env.recorded note).observe .isConnected transport ledger = false := hidle
  simp only [walk, hobserve, Bool.false_eq_true, if_false, hdial] at h
  cases reply with
  | failed fault =>
      obtain ⟨rfl, -, rfl, rfl⟩ := by simpa using h
      refine ⟨rfl, _, ?_, .unreached fault⟩
      simpa [recorded] using hcalls
  | abandoned =>
      obtain ⟨rfl, -, rfl, rfl⟩ := by simpa using h
      exact ⟨rfl, _, hcalls, .abandoned⟩
  | done _ =>
      obtain ⟨hnumber, k, blamed, answer, hblamed, rfl, hlast, hmade⟩ :=
        relay_calls env note ⟨route.head.address, ⟨0, state⟩⟩ h
      have hblamed : (route.hops.map (·.address))[k]? = some blamed := hblamed
      rw [List.getElem?_map] at hblamed
      obtain ⟨hop, hhop, rfl⟩ := Option.map_eq_some_iff.mp hblamed
      refine ⟨hnumber, _, ?_, .asked answer hhop ?_⟩
      · rw [hmade, hcalls, List.append_assoc]
        rfl
      · intro hanswer
        simp [hlast hanswer, Route.length, Route.hops]

/-- A walk that succeeds has made the calls of a whole journey, whatever the transport was when it
began: over a connected one no walk succeeds. -/
theorem walk_done_calls {route : Route π} {target : Address} {transport transport' : Numbered τ}
    {ledger ledger' : Ledger ω ν} {walked : Route (Numbered π)}
    (h : (env.recorded note).walk route.numbered target transport ledger =
      (.done (), walked, transport', ledger')) :
    transport'.number = transport.number ∧
      ledger'.calls = ledger.calls ++ route.journey target transport.number := by
  cases hconnected : env.observe .isConnected transport.value ledger.world with
  | true =>
      have hobserve : (env.recorded note).observe .isConnected transport ledger = true := hconnected
      simp [walk, hobserve] at h
  | false =>
      obtain ⟨hnumber, made, hmade, hwalked⟩ := walk_calls env note h hconnected
      exact ⟨hnumber, by rw [hmade, hwalked.calls_of_done]⟩

/-- **The calls of an attempt over a route.**  A copy of a route makes no call over a transport that
is connected.  Over any other transport it makes exactly the calls that `Route.Walked` lists; the
attempt ends as the proxy that is blamed answered, and is rejected exactly if a proxy rejected. -/
theorem walk_of_copy (route : Route π) (target : Address) (transport : Numbered τ)
    (ledger : Ledger ω ν) :
    let (copy, start) := (env.recorded note).copyRoute route.numbered ledger
    let (ending, _, _, finish) := (env.recorded note).walk copy target transport start
    ∃ made, finish.calls = ledger.calls ++ made ∧
      (env.observe .isConnected transport.value start.world = true →
        made = [] ∧ ending = .failed (.invalidState .transportInUse)) ∧
      (env.observe .isConnected transport.value start.world = false →
        route.Walked target transport.number made ending ∧
          ∀ failure, ending = .failed failure →
            (failure.isRejected = true ↔ ∃ hop stop text,
              Call.request hop stop transport.number (.failed (.rejected text)) ∈ made)) := by
  simp only [copyRoute_eq]
  generalize hstart : (env.recorded note).log (.routeLength route.numbered.length) ledger = start
  have hcalls : start.calls = ledger.calls := by
    rw [← hstart]
    exact Ledger.calls_write ledger _ _
  generalize hw : (env.recorded note).walk route.numbered target transport start = result
  obtain ⟨ending, walked, carried, finish⟩ := result
  by_cases hconnected : env.observe .isConnected transport.value start.world = true
  · have hobserve : (env.recorded note).observe .isConnected transport start = true := hconnected
    simp only [walk, hobserve, if_true] at hw
    obtain ⟨rfl, -, -, rfl⟩ := by simpa using hw
    exact ⟨[], by simp [hcalls], fun _ => ⟨rfl, rfl⟩, fun h => by simp [hconnected] at h⟩
  · obtain ⟨-, made, hmade, hwalked⟩ := walk_calls env note hw (by simpa using hconnected)
    refine ⟨made, by rw [hmade, hcalls], fun h => absurd h hconnected, fun _ => ⟨hwalked, ?_⟩⟩
    rintro failure rfl
    exact hwalked.isRejected_iff

end Environment

end RelayRoute
