import Mathlib.Data.List.Basic
import RelayRoute.Preparation
import RelayRoute.Proofs.Sockets
import RelayRoute.Scripted.Environment

/-!
# Settings that wait for a dial

Before it is dialed, a TCP transport keeps the settings it is given: one at a time, or several at
once that are made in the order of the options.  A getter then gives the value that its own option
was given last.  Lingering is kept in another way than the rest, since it can be turned off as well
as left alone; `Settings.value_put` sees to that.

* `Settings.override` — settings with others over them, option by option; by
  `Settings.putEach_toList` this is what making the others one after another comes to;
* `Adjustment`, `Settings.adjust` — a way to change the settings that wait, and what it makes of
  them;
* `Settings.value_adjust`, `Settings.value_adjustEach` — what a getter gives after one adjustment,
  and after any number of them;
* `Tcp.adjust_idle`, `Tcp.adjustEach_idle` — an idle transport takes them all, and nothing else
  about it changes;
* `Tcp.settings_wait` — the main result.  What waits is what every socket of the dial gets, in the
  order of the options and before anything else is done with it (`Tcp.connect_equipped`).
-/

namespace RelayRoute

namespace Settings

variable (settings later : Settings)

/-- The settings with those of `later` over them, option by option. -/
def override : Settings where
  nodelay := later.nodelay <|> settings.nodelay
  keepalive := later.keepalive <|> settings.keepalive
  linger := later.linger <|> settings.linger
  outOfBandInline := later.outOfBandInline <|> settings.outOfBandInline
  sendBufferSize := later.sendBufferSize <|> settings.sendBufferSize
  receiveBufferSize := later.receiveBufferSize <|> settings.receiveBufferSize
  trafficClass := later.trafficClass <|> settings.trafficClass
  reuseAddress := later.reuseAddress <|> settings.reuseAddress

/-- What is set in `later` comes first. -/
theorem get_override (o : SocketOption) :
    (settings.override later).get o = (later.get o <|> settings.get o) := by
  cases o with
  | linger =>
      show Option.map some (later.linger <|> settings.linger) =
        (later.linger.map some <|> settings.linger.map some)
      cases later.linger <;> rfl
  | _ => rfl

variable {settings later}

/-- Settings are known by what each option is to be set to. -/
theorem ext_get (h : ∀ o, settings.get o = later.get o) : settings = later := by
  have hlinger : settings.linger = later.linger :=
    Option.map_injective (fun _ _ => Option.some.inj) (h .linger)
  obtain ⟨a, b, c, d, e, f, g, i⟩ := settings
  obtain ⟨a', b', c', d', e', f', g', i'⟩ := later
  obtain rfl : a = a' := h .nodelay
  obtain rfl : b = b' := h .keepalive
  obtain rfl : c = c' := hlinger
  obtain rfl : d = d' := h .outOfBandInline
  obtain rfl : e = e' := h .sendBufferSize
  obtain rfl : f = f' := h .receiveBufferSize
  obtain rfl : g = g' := h .trafficClass
  obtain rfl : i = i' := h .reuseAddress
  rfl

/-- An option is to be set to what it was given, if that was meant to be set. -/
theorem get_put_of_get {o : SocketOption} {v : o.Value} (h : later.get o = some v) :
    (settings.put o v).get o = some v := by
  cases o with
  | linger =>
      obtain ⟨time, -, rfl⟩ := Option.map_eq_some_iff.mp h
      rfl
  | _ => rfl

/-- The settings after others were made, one after another. -/
def putEach (settings : Settings) (made : List Setting) : Settings :=
  made.foldl (fun settings setting => settings.put setting.option setting.value) settings

/-- Making the settings of some options puts them over those that there were.  The induction is on
the options: one that is not to be set is passed over, and the last setting of an option decides it.
-/
theorem get_putEach (options : List SocketOption) (settings later : Settings) (p : SocketOption) :
    (settings.putEach (options.filterMap fun o => (later.get o).map (⟨o, ·⟩))).get p =
      if p ∈ options then (later.get p <|> settings.get p) else settings.get p := by
  induction options generalizing settings with
  | nil => rfl
  | cons o options ih =>
      cases hget : later.get o with
      | none =>
          rw [List.filterMap_cons_none (by rw [hget]; rfl), ih]
          by_cases hp : p = o
          · subst hp
            simp [hget]
          · simp [hp]
      | some v =>
          rw [List.filterMap_cons_some (b := ⟨o, v⟩) (by rw [hget]; rfl)]
          show ((settings.put o v).putEach _).get p = _
          rw [ih]
          by_cases hp : p = o
          · subst hp
            simp [hget, get_put_of_get hget]
          · simp [hp, get_put_of_ne settings v hp]

/-- Making settings in the order of the options puts them over those that there were. -/
theorem putEach_toList (settings later : Settings) :
    settings.putEach later.toList = settings.override later := by
  refine ext_get fun o => ?_
  rw [get_override, toList, get_putEach, if_pos o.mem_all]

end Settings

/-- A way to change the settings that wait: one setter at a time, or settings that are made all at
once. -/
inductive Adjustment
  /-- One option is given a value. -/
  | set (setting : Setting)
  /-- Settings are made in the order of the options. -/
  | apply (settings : Settings)

/-- The value that an adjustment gives an option, if it gives it one. -/
def Adjustment.gives (o : SocketOption) : Adjustment → Option o.Value
  | .set setting => if h : setting.option = o then some (h ▸ setting.value) else none
  | .apply settings => settings.get o

namespace Settings

/-- The settings after an adjustment. -/
def adjust (settings : Settings) : Adjustment → Settings
  | .set setting => settings.put setting.option setting.value
  | .apply later => settings.override later

/-- An adjustment decides the options that it gives a value, and no others. -/
theorem value_adjust (settings : Settings) (adjustment : Adjustment) (o : SocketOption) :
    (settings.adjust adjustment).value o = (adjustment.gives o).getD (settings.value o) := by
  cases adjustment with
  | set setting =>
      obtain ⟨p, v⟩ := setting
      by_cases hp : p = o
      · subst hp
        simpa [Adjustment.gives, adjust] using settings.value_put p v
      · simp only [Adjustment.gives, dif_neg hp, Option.getD_none]
        show ((settings.put p v).get o).getD o.neutral = _
        rw [settings.get_put_of_ne v (Ne.symm hp), value]
  | apply later =>
      show ((settings.override later).get o).getD o.neutral = (later.get o).getD (settings.value o)
      rw [get_override, value]
      cases later.get o <;> rfl

/-- **After adjustments an option has the value it was given last**, or the one it had before, if it
was given none.  The induction is on the adjustments, of which each decides its own options and no
others. -/
theorem value_adjustEach (adjustments : List Adjustment) (settings : Settings)
    (o : SocketOption) :
    (adjustments.foldl adjust settings).value o =
      (adjustments.filterMap (Adjustment.gives o)).getLastD (settings.value o) := by
  induction adjustments generalizing settings with
  | nil => rfl
  | cons adjustment adjustments ih =>
      rw [List.foldl_cons, ih, value_adjust]
      cases hgives : adjustment.gives o with
      | none => rw [List.filterMap_cons_none hgives, Option.getD_none]
      | some v => rw [List.filterMap_cons_some hgives, Option.getD_some, List.getLastD_cons]

end Settings

/-- The environment in which the transports are TCP transports of a network. -/
def Environment.overTcp {ω κ σ π ρ : Type} (env : Environment ω (Tcp σ) π ρ)
    (network : Network ω κ σ) : Environment ω (Tcp σ) π ρ :=
  { env with
    observe := Tcp.observe network, perform := Tcp.perform network, close := Tcp.close network }

namespace Tcp

variable {ω κ σ π ρ : Type} (env : Environment ω (Tcp σ) π ρ) (network : Network ω κ σ)

/-- Makes an adjustment on a transport. -/
def adjust (adjustment : Adjustment) (tcp : Tcp σ) (world : ω) :
    Except IoFault Unit × Tcp σ × ω :=
  match adjustment with
  | .set setting => perform network (.set setting) tcp world
  | .apply settings => (env.overTcp network).make settings tcp world

/-- Makes adjustments one after another, whatever the replies are, and lists the replies in order.
-/
def adjustEach : List Adjustment → Tcp σ → ω → List (Except IoFault Unit) × Tcp σ × ω
  | [], tcp, world => ([], tcp, world)
  | adjustment :: adjustments, tcp, world =>
    let (reply, tcp, world) := adjust env network adjustment tcp world
    let (replies, tcp, world) := adjustEach adjustments tcp world
    (reply :: replies, tcp, world)

variable {tcp : Tcp σ} (idle : tcp.state = .idle)

include idle

/-- An idle transport takes every setting. -/
theorem perform_set_idle (setting : Setting) (world : ω) :
    perform network (.set setting) tcp world =
      (.ok (), { tcp with settings := tcp.settings.put setting.option setting.value }, world) := by
  simp only [perform, setOption, idle]

/-- An idle transport takes settings one after another: none of them fails, so all are made, and
they are put over those that waited before. -/
theorem makeEach_idle (settings : List Setting) (world : ω) :
    (env.overTcp network).makeEach settings tcp world =
      (.ok (), { tcp with settings := tcp.settings.putEach settings }, world) := by
  induction settings generalizing tcp with
  | nil => rfl
  | cons setting settings ih =>
      have hset : (env.overTcp network).perform (.set setting) tcp world =
          (.ok (), { tcp with settings := tcp.settings.put setting.option setting.value }, world) :=
        perform_set_idle network idle setting world
      simp only [Environment.makeEach, hset]
      exact ih idle

/-- An idle transport takes every adjustment. -/
theorem adjust_idle (adjustment : Adjustment) (world : ω) :
    adjust env network adjustment tcp world =
      (.ok (), { tcp with settings := tcp.settings.adjust adjustment }, world) := by
  cases adjustment with
  | set setting => exact perform_set_idle network idle setting world
  | apply settings =>
      show (env.overTcp network).makeEach settings.toList tcp world = _
      rw [makeEach_idle env network idle, Settings.putEach_toList]
      rfl

/-- An idle transport takes adjustments one after another.  It stays idle with each of them, which
carries the induction. -/
theorem adjustEach_idle (adjustments : List Adjustment) (world : ω) :
    adjustEach env network adjustments tcp world =
      (adjustments.map fun _ => .ok (),
        { tcp with settings := adjustments.foldl Settings.adjust tcp.settings }, world) := by
  induction adjustments generalizing tcp with
  | nil => rfl
  | cons adjustment adjustments ih =>
      have hrest := @ih { tcp with settings := tcp.settings.adjust adjustment } idle
      simp only [adjustEach, adjust_idle env network idle, hrest]
      rfl

/-- What an idle transport answers about an option. -/
theorem observe_option_idle (o : SocketOption) (world : ω) :
    observe network (.option o) tcp world = .ok (tcp.settings.value o) := by
  simp only [observe, getOption, idle]

/-- **Settings wait until a transport is dialed.**  Whatever settings an idle transport starts with,
it takes every adjustment, and nothing else about it changes.  After adjustments, in any number and
order, its getters give the value that their own option was given last; one that was given none has
the value that it had at the start.  Making settings in the order of the options puts them over
those that wait, and setting one option is not seen by the getters of the others.

The dial then gives each socket that it opens exactly the settings that wait, with the values that
the getters give and in the order of the options, up to the first that is refused, before the socket
is bound or connected. -/
theorem settings_wait (adjustments : List Adjustment) (world : ω) :
    let (replies, after, later) := adjustEach env network adjustments tcp world
    (∀ reply ∈ replies, reply = .ok ()) ∧ later = world ∧
    after = { tcp with settings := adjustments.foldl Settings.adjust tcp.settings } ∧
    (∀ o, observe network (.option o) after world =
      .ok ((adjustments.filterMap (Adjustment.gives o)).getLastD (tcp.settings.value o))) ∧
    (∀ settings, adjust env network (.apply settings) after world =
      (.ok (), { after with settings := after.settings.override settings }, world)) ∧
    (∀ setting o, o ≠ setting.option →
      let (_, set, _) := adjust env network (.set setting) after world
      observe network (.option o) set world = observe network (.option o) after world) ∧
    (after.settings.toList.map Setting.option =
      SocketOption.all.filter fun o => (after.settings.get o).isSome) ∧
    (∀ setting ∈ after.settings.toList,
      after.settings.get setting.option = some setting.value ∧
        observe network (.option setting.option) after world = .ok setting.value) ∧
    ∀ host port,
      let (_, _, dialed) := connect network.recorded host port after (.start world)
      Equipped after.settings.toList dialed.calls dialed.next := by
  rw [adjustEach_idle env network idle]
  obtain ⟨after, hafter⟩ : ∃ after : Tcp σ,
      after = { tcp with settings := adjustments.foldl Settings.adjust tcp.settings } := ⟨_, rfl⟩
  have hidle : after.state = .idle := by rw [hafter]; exact idle
  have hsettings : after.settings = adjustments.foldl Settings.adjust tcp.settings := by rw [hafter]
  rw [← hafter]
  refine ⟨by simp, rfl, rfl, fun o => ?_, fun settings => ?_, fun setting o hother => ?_,
    Settings.options_toList, fun setting hwaits => ?_, fun host port => ?_⟩
  · rw [observe_option_idle network hidle, hsettings, Settings.value_adjustEach]
  · exact adjust_idle env network hidle (.apply settings) world
  · rw [adjust_idle env network hidle]
    have hgives : (Adjustment.set setting).gives o = none := dif_neg (Ne.symm hother)
    have hset : ({ after with settings := after.settings.adjust (.set setting) } : Tcp σ).state =
        .idle := hidle
    show observe network (.option o) _ world = _
    rw [observe_option_idle network hset, observe_option_idle network hidle,
      Settings.value_adjust, hgives, Option.getD_none]
  · have hget := Settings.mem_toList.mp hwaits
    exact ⟨hget, by rw [observe_option_idle network hidle, Settings.value, hget, Option.getD_some]⟩
  · exact connect_equipped network host port _ .nothing

end Tcp

namespace Scripted

/-- How TCP transports of a system without a network behave, with proxies that relay to anybody. -/
def isolatedEnvironment : Environment Stage (Tcp Empty) Unit Resolver where
  observe := Tcp.observe isolation
  perform := Tcp.perform isolation
  close := Tcp.close isolation
  create _ stage := (Tcp.create, stage)
  dial proxy tcp stage :=
    let (ending, tcp, stage) :=
      Tcp.connect isolation proxy.address.host.text proxy.address.port tcp stage
    (ending, (), tcp, stage)
  markReached _ stage := ((), stage)
  request _ _ tcp stage := (.done (), (), tcp, stage)
  lookup := Resolver.lookup
  systemResolver := .system
  log := Stage.log

end Scripted

namespace Tcp

open Scripted

/-- A transport that was to linger, and then not: its socket is told to send at once and to keep the
connection alive, and nothing about lingering. -/
theorem settings_wait_turned_off :
    let adjustments : List Adjustment :=
      [.set ⟨.linger, some (.ofMilliseconds 5)⟩, .apply { keepalive := some true },
        .set ⟨.linger, none⟩]
    let (_, after, stage) := adjustEach isolatedEnvironment isolation adjustments create {}
    let (ending, _, dialed) := connect isolation.recorded "192.0.2.1" 1080 after (.start stage)
    (create : Tcp Empty).state = .idle ∧
      observe isolation (.option .linger) after stage = .ok none ∧
      observe isolation (.option .keepalive) after stage = .ok true ∧
      observe isolation (.option .nodelay) after stage = .ok true ∧
      Equipped [⟨.nodelay, true⟩, ⟨.keepalive, true⟩] dialed.calls dialed.next ∧
      ending = .failed (.system .networkUnreachable) ∧ dialed.next = 1 := by
  obtain ⟨-, -, -, hvalue, -, -, -, -, hequipped⟩ :=
    @settings_wait _ _ _ _ _ isolatedEnvironment isolation create rfl
      [.set ⟨.linger, some (.ofMilliseconds 5)⟩, .apply { keepalive := some true },
        .set ⟨.linger, none⟩] {}
  exact ⟨rfl, hvalue .linger, hvalue .keepalive, hvalue .nodelay, hequipped "192.0.2.1" 1080, rfl,
    rfl⟩

end Tcp

end RelayRoute
