import RelayRoute.Duration

/-!
# Settings of sockets

The eight options of a stream socket, in the order in which they are set, each with a type of
values; `Settings` holds the values of those that are to be set.

* `SocketOption`, `Setting` — an option, and an option together with a value;
* `Settings.get`, `Settings.put`, `Settings.value` — what an option is to be set to; `value_put` and
  `get_put_of_ne` say that a setter decides its own option and no other;
* `Settings.toList` — the settings to make, in the order of the options;
* `Settings.fields` — the fields that are set, spelled out one by one.  By `toList_eq_fields` these
  are the settings to make, so that `mem_fields` and `nodup_fields` tell which those are.
-/

namespace RelayRoute

/-- An option of a stream socket. -/
inductive SocketOption
  | nodelay
  | keepalive
  | linger
  | outOfBandInline
  | sendBufferSize
  | receiveBufferSize
  | trafficClass
  | reuseAddress
  deriving DecidableEq

namespace SocketOption

/-- What an option may be set to. -/
abbrev Value : SocketOption → Type
  | nodelay | keepalive | outOfBandInline | reuseAddress => Bool
  | linger => Option Duration
  | sendBufferSize | receiveBufferSize => UInt64
  | trafficClass => UInt32

instance instDecidableEqValue : (o : SocketOption) → DecidableEq o.Value
  | nodelay | keepalive | outOfBandInline | reuseAddress => inferInstanceAs (DecidableEq Bool)
  | linger => inferInstanceAs (DecidableEq (Option Duration))
  | sendBufferSize | receiveBufferSize => inferInstanceAs (DecidableEq UInt64)
  | trafficClass => inferInstanceAs (DecidableEq UInt32)

/-- The value of an option that nobody has set. -/
def neutral : (o : SocketOption) → o.Value
  | nodelay | keepalive | outOfBandInline | reuseAddress => false
  | linger => none
  | sendBufferSize | receiveBufferSize | trafficClass => 0

/-- The options in the order in which they are set. -/
def all : List SocketOption :=
  [nodelay, keepalive, linger, outOfBandInline, sendBufferSize, receiveBufferSize, trafficClass,
    reuseAddress]

/-- Every option is set in its turn. -/
theorem mem_all (o : SocketOption) : o ∈ all := by
  cases o <;> decide

end SocketOption

/-- An option together with a value for it. -/
structure Setting where
  option : SocketOption
  value : option.Value
  deriving DecidableEq

/-- The values of the options that are to be set; an option without a value is left alone. -/
structure Settings where
  nodelay : Option Bool := none
  keepalive : Option Bool := none
  linger : Option Duration := none
  outOfBandInline : Option Bool := none
  sendBufferSize : Option UInt64 := none
  receiveBufferSize : Option UInt64 := none
  trafficClass : Option UInt32 := none
  reuseAddress : Option Bool := none
  deriving DecidableEq

namespace Settings

/-- The value an option is to be set to.  Lingering is only ever to be turned on. -/
def get (settings : Settings) : (o : SocketOption) → Option o.Value
  | .nodelay => settings.nodelay
  | .keepalive => settings.keepalive
  | .linger => settings.linger.map some
  | .outOfBandInline => settings.outOfBandInline
  | .sendBufferSize => settings.sendBufferSize
  | .receiveBufferSize => settings.receiveBufferSize
  | .trafficClass => settings.trafficClass
  | .reuseAddress => settings.reuseAddress

/-- The settings with a value for one option; turning lingering off takes it out. -/
def put (settings : Settings) : (o : SocketOption) → o.Value → Settings
  | .nodelay, on => { settings with nodelay := some on }
  | .keepalive, on => { settings with keepalive := some on }
  | .linger, time => { settings with linger := time }
  | .outOfBandInline, on => { settings with outOfBandInline := some on }
  | .sendBufferSize, size => { settings with sendBufferSize := some size }
  | .receiveBufferSize, size => { settings with receiveBufferSize := some size }
  | .trafficClass, byte => { settings with trafficClass := some byte }
  | .reuseAddress, on => { settings with reuseAddress := some on }

/-- The value of an option, neutral if it is not to be set. -/
def value (settings : Settings) (o : SocketOption) : o.Value :=
  (settings.get o).getD o.neutral

/-- The settings to make, in order: one for each option that is to be set.  Transports and sockets
both go by this list. -/
def toList (settings : Settings) : List Setting :=
  SocketOption.all.filterMap fun o => (settings.get o).map (⟨o, ·⟩)

/-- The settings to make are those that are to be set. -/
theorem mem_toList {settings : Settings} {o : SocketOption} {v : o.Value} :
    (⟨o, v⟩ : Setting) ∈ settings.toList ↔ settings.get o = some v := by
  unfold toList
  rw [List.mem_filterMap]
  constructor
  · rintro ⟨p, -, hset⟩
    obtain ⟨w, hw, heq⟩ := Option.map_eq_some_iff.mp hset
    cases heq
    exact hw
  · intro hset
    exact ⟨o, o.mem_all, by rw [hset]; rfl⟩

/-- The settings to make come in the order of the options. -/
theorem options_toList {settings : Settings} :
    settings.toList.map Setting.option =
      SocketOption.all.filter fun o => (settings.get o).isSome := by
  unfold toList
  rw [List.map_filterMap, ← List.filterMap_eq_filter]
  congr 1
  funext o
  rw [Option.map_map, Option.guard]
  cases settings.get o with
  | none => rfl
  | some v => rfl

/-- The fields that are set, spelled out in the order in which they are declared: each of them is
there with its own option, if it has a value. -/
def fields (settings : Settings) : List Setting :=
  (settings.nodelay.map (Setting.mk .nodelay ·)).toList ++
  (settings.keepalive.map (Setting.mk .keepalive ·)).toList ++
  (settings.linger.map fun time => Setting.mk .linger (some time)).toList ++
  (settings.outOfBandInline.map (Setting.mk .outOfBandInline ·)).toList ++
  (settings.sendBufferSize.map (Setting.mk .sendBufferSize ·)).toList ++
  (settings.receiveBufferSize.map (Setting.mk .receiveBufferSize ·)).toList ++
  (settings.trafficClass.map (Setting.mk .trafficClass ·)).toList ++
  (settings.reuseAddress.map (Setting.mk .reuseAddress ·)).toList

/-- The settings to make are there option by option: one, or none. -/
theorem toList_eq_flatMap (settings : Settings) : settings.toList =
    SocketOption.all.flatMap fun o => ((settings.get o).map (Setting.mk o ·)).toList := by
  unfold toList
  induction SocketOption.all with
  | nil => rfl
  | cons o options ih =>
      rw [List.flatMap_cons, ← ih, List.filterMap_cons]
      cases settings.get o <;> rfl

/-- The settings to make are the fields that are set, so whatever is said of the settings to make
rests on the fields one by one. -/
theorem toList_eq_fields (settings : Settings) : settings.toList = settings.fields := by
  rw [toList_eq_flatMap]
  simp only [SocketOption.all, List.flatMap_cons, List.flatMap_nil, List.append_nil, get, fields,
    List.append_assoc, Option.map_map]
  rfl

/-- A field is set to its own value. -/
theorem mem_fields {settings : Settings} {setting : Setting} :
    setting ∈ settings.fields ↔ settings.get setting.option = some setting.value := by
  rw [← toList_eq_fields]
  exact mem_toList

/-- Each field is set once, so a setting that is made is never made again with another value. -/
theorem nodup_fields (settings : Settings) : (settings.fields.map Setting.option).Nodup := by
  rw [← toList_eq_fields, options_toList]
  have hall : SocketOption.all.Nodup := by decide
  exact List.Pairwise.filter _ hall

/-- An option has the value it was given last. -/
theorem value_put (settings : Settings) (o : SocketOption) (v : o.Value) :
    (settings.put o v).value o = v := by
  cases o <;> first | rfl | (cases v <;> rfl)

/-- Giving an option a value leaves the others alone. -/
theorem get_put_of_ne (settings : Settings) {o p : SocketOption} (v : o.Value) (h : p ≠ o) :
    (settings.put o v).get p = settings.get p := by
  cases o <;> cases p <;> first | rfl | exact absurd rfl h

end Settings

end RelayRoute
