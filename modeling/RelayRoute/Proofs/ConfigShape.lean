import RelayRoute.Proofs.ConfigText

/-!
# Configurations in all the shapes they are written in

`Config.WrittenAs` says of a value that it writes a configuration: every field has its value, `null`
stands for a missing one, and in an object a missing one may be left out.  Every text that spells
such a value is read as the configuration, whatever the blanks and comments, the order of the keys,
the way numbers and keys are written and the keys that nobody knows.

* `NaturalWrittenAs`, `OptionWrittenAs`, `FieldWrittenAs` — how numbers, options and fields are
  written;
* `readOptional_of_written`, `readNatural_of_written` — what is written for them is read;
* `takes_settings`, `takes_config` — settings and configurations are records whose fields are stored
  independently of each other (`Record.Takes`), so that `Record.Takes.read` reads them from every
  shape;
* `read_error_of_givesTwice` — an object that gives a field twice is not read;
* `ofText_of_writtenAs` — the main result, and `ofText_hexadecimal_refused` a number that is not
  read in base sixteen.
-/

namespace RelayRoute.Config

open Json5

/-! ## Values that are written -/

/-- A truth value is written as its word. -/
def TruthWrittenAs (b : Bool) (value : Value) : Prop :=
  ∃ place, value = .boolean place b

/-- A natural number may be written in many ways. -/
def NaturalWrittenAs (n : ℕ) (value : Value) : Prop :=
  ∃ place number, value = .number place number ∧ number.Writes n

/-- What is missing is written as `null`. -/
def OptionalWrittenAs {α : Type} (written : α → Value → Prop) : Option α → Value → Prop
  | none, value => ∃ place, value = .null place
  | some a, value => written a value

/-- The value of an option. -/
def OptionWrittenAs (settings : Settings) : SocketOption → Value → Prop
  | .nodelay => OptionalWrittenAs TruthWrittenAs settings.nodelay
  | .keepalive => OptionalWrittenAs TruthWrittenAs settings.keepalive
  | .linger => OptionalWrittenAs (fun d => NaturalWrittenAs d.milliseconds) settings.linger
  | .outOfBandInline => OptionalWrittenAs TruthWrittenAs settings.outOfBandInline
  | .sendBufferSize =>
    OptionalWrittenAs (fun n => NaturalWrittenAs n.toNat) settings.sendBufferSize
  | .receiveBufferSize =>
    OptionalWrittenAs (fun n => NaturalWrittenAs n.toNat) settings.receiveBufferSize
  | .trafficClass => OptionalWrittenAs (fun n => NaturalWrittenAs n.toNat) settings.trafficClass
  | .reuseAddress => OptionalWrittenAs TruthWrittenAs settings.reuseAddress

/-- Settings of sockets. -/
def SettingsWrittenAs (settings : Settings) : Value → Prop :=
  settingsRecord.WrittenAs (OptionWrittenAs settings)

/-- The value of a field. -/
def FieldWrittenAs (config : Config) : Field → Value → Prop
  | .ipv4Only => OptionalWrittenAs TruthWrittenAs config.ipv4Only
  | .connectTimeout =>
    OptionalWrittenAs (fun n => NaturalWrittenAs n.toNat) config.connectTimeout
  | .socket => OptionalWrittenAs SettingsWrittenAs config.socket

/-- A configuration. -/
def WrittenAs (config : Config) : Value → Prop :=
  configRecord.WrittenAs (FieldWrittenAs config)

/-! ## Written values are read -/

/-- What is written for a value that may be missing is read, if `null` is refused as a value. -/
theorem readOptional_of_written {α β : Type} {written : α → Value → Prop}
    {read : Value → Except Fault β} {f : α → β} {a? : Option α} {value : Value}
    (hnull : ∀ place, ∃ fault, read (.null place) = .error fault)
    (hread : ∀ a ∈ a?, written a value → read value = .ok (f a))
    (h : OptionalWrittenAs written a? value) : readOptional read value = .ok (a?.map f) := by
  cases a? with
  | none =>
      obtain ⟨place, rfl⟩ := h
      rfl
  | some a => exact readOptional_of_ok hnull (hread a rfl h)

/-- The same where the value itself is read. -/
theorem readOptional_eq_self {α : Type} {written : α → Value → Prop}
    {read : Value → Except Fault α} {a? : Option α} {value : Value}
    (hnull : ∀ place, ∃ fault, read (.null place) = .error fault)
    (hread : ∀ a ∈ a?, written a value → read value = .ok a)
    (h : OptionalWrittenAs written a? value) : readOptional read value = .ok a? := by
  have hmap := readOptional_of_written (f := id) hnull hread h
  rwa [Option.map_id] at hmap

/-- A written natural number is read if it is below the bound. -/
theorem readNatural_of_written {bound n : ℕ} {value : Value} (hdigits : value.HasDigits)
    (hn : n ≤ 2 ^ 53) (hbound : n < bound) (h : NaturalWrittenAs n value) :
    readNatural bound value = .ok n := by
  obtain ⟨place, number, rfl, hwrites⟩ := h
  cases hdigits with
  | number _ hdigits =>
      obtain ⟨x, hread, htruncate⟩ := readFloat_of_writes hdigits hn hwrites
      have hmin : min (bound - 1) n = n := Nat.min_eq_right (Nat.le_sub_one_of_lt hbound)
      rw [readNatural, hread, Except.map, locate, htruncate, hmin]

/-- A written number of 64 bits is read. -/
theorem readWord64_of_written {n : ℕ} {value : Value} (hdigits : value.HasDigits)
    (hn : n ≤ 2 ^ 53) (h : NaturalWrittenAs n value) :
    readWord64 value = .ok (UInt64.ofNat n) := by
  have hbound : n < UInt64.size := lt_of_le_of_lt hn (by decide)
  rw [readWord64, readNatural_of_written hdigits hn hbound h]
  rfl

/-- A written number of 32 bits is read. -/
theorem readWord32_of_written {n : UInt32} {value : Value} (hdigits : value.HasDigits)
    (h : NaturalWrittenAs n.toNat value) : readWord32 value = .ok n := by
  have hbound : n.toNat < UInt32.size := n.toNat_lt_size
  have hn : n.toNat ≤ 2 ^ 53 := le_trans hbound.le (by decide)
  rw [readWord32, readNatural_of_written hdigits hn hbound h, Except.map, UInt32.ofNat_toNat]

/-- A written truth value that may be missing is read. -/
theorem readOptional_truth {b? : Option Bool} {value : Value}
    (h : OptionalWrittenAs TruthWrittenAs b? value) : readOptional readBoolean value = .ok b? := by
  refine readOptional_eq_self (fun _ => ⟨_, rfl⟩) (fun b _ hb => ?_) h
  obtain ⟨place, rfl⟩ := hb
  rfl

/-- A written number of 64 bits that may be missing is read. -/
theorem readOptional_word64 {n? : Option UInt64} {value : Value} (hdigits : value.HasDigits)
    (hn : ∀ n ∈ n?, n.toNat ≤ 2 ^ 53)
    (h : OptionalWrittenAs (fun n => NaturalWrittenAs n.toNat) n? value) :
    readOptional readWord64 value = .ok n? := by
  refine readOptional_eq_self (fun _ => ⟨_, rfl⟩) (fun n hmem hwritten => ?_) h
  rw [readWord64_of_written hdigits (hn n hmem) hwritten, UInt64.ofNat_toNat]

/-- Milliseconds to linger that may be missing are read. -/
theorem readOptional_milliseconds {d? : Option Duration} {value : Value}
    (hdigits : value.HasDigits) (hexact : ∀ d ∈ d?, ∃ n ≤ 2 ^ 53, d = Duration.ofMilliseconds n)
    (h : OptionalWrittenAs (fun d => NaturalWrittenAs d.milliseconds) d? value) :
    readOptional readWord64 value = .ok (d?.map fun d => UInt64.ofNat d.milliseconds) := by
  refine readOptional_of_written (fun _ => ⟨_, rfl⟩) (fun d hmem hwritten => ?_) h
  obtain ⟨n, hn, rfl⟩ := hexact d hmem
  rw [Duration.milliseconds_ofMilliseconds] at hwritten ⊢
  exact readWord64_of_written hdigits hn hwritten

/-- Milliseconds are as long as the time they were counted from, if it has no fraction of one. -/
theorem ofMilliseconds_toNat_milliseconds {d : Duration}
    (h : ∃ n ≤ 2 ^ 53, d = Duration.ofMilliseconds n) :
    Duration.ofMilliseconds (UInt64.ofNat d.milliseconds).toNat = d := by
  obtain ⟨n, hn, rfl⟩ := h
  have hlt : n < UInt64.size := lt_of_le_of_lt hn (by decide)
  rw [Duration.milliseconds_ofMilliseconds, UInt64.toNat_ofNat_of_lt' hlt]

/-! ## Settings and configurations -/

/-- What is written for an option is stored as its value, if that is one that rounding keeps.  The
cases are the kinds of options. -/
theorem storeOption_of_written {settings : Settings} (hexact : settings.IsExact)
    {option : SocketOption} {value : Value} (hdigits : value.HasDigits)
    (h : OptionWrittenAs settings option value) (s : Settings) :
    storeOption option value s = .ok (takeOption settings option s) := by
  cases option with
  | nodelay | keepalive | outOfBandInline | reuseAddress =>
      rw [storeOption, readOptional_truth h]
      rfl
  | sendBufferSize =>
      rw [storeOption, readOptional_word64 hdigits hexact.sendBufferSize h]
      rfl
  | receiveBufferSize =>
      rw [storeOption, readOptional_word64 hdigits hexact.receiveBufferSize h]
      rfl
  | trafficClass =>
      rw [storeOption, readOptional_eq_self (fun _ => ⟨_, rfl⟩)
        (fun _ _ hwritten => readWord32_of_written hdigits hwritten) h]
      rfl
  | linger =>
      have hlinger : (settings.linger.map fun d =>
          Duration.ofMilliseconds (UInt64.ofNat d.milliseconds).toNat) = settings.linger :=
        map_eq_self fun d hd => ofMilliseconds_toNat_milliseconds (hexact.linger d hd)
      rw [storeOption, readOptional_milliseconds hdigits hexact.linger h]
      simp only [Except.map, takeOption, Option.map_map, Function.comp_def, hlinger]

/-- Settings are taken over option by option. -/
theorem takes_settings {settings : Settings} (hexact : settings.IsExact) :
    settingsRecord.Takes (OptionWrittenAs settings) (takeOption settings) {} where
  store hdigits hwritten s := storeOption_of_written hexact hdigits hwritten s
  null option place := by cases option <;> rfl
  comm option other s := by cases option <;> cases other <;> rfl

/-- Settings are read from every shape they are written in. -/
theorem read_settings {settings : Settings} (hexact : settings.IsExact) {value : Value}
    (hdigits : value.HasDigits) (h : SettingsWrittenAs settings value) :
    settingsRecord.read {} value = .ok settings := by
  rw [(takes_settings hexact).read settingsRecord_isNamed.nodup hdigits h]
  rfl

/-- What is written for a field is stored as its value.  For the section of settings this is what
`read_settings` says. -/
theorem storeField_of_written {config : Config} (hexact : config.IsExact) {field : Field}
    {value : Value} (hdigits : value.HasDigits) (h : FieldWrittenAs config field value)
    (s : Config) : storeField field value s = .ok (takeField config field s) := by
  cases field with
  | ipv4Only =>
      rw [storeField, readOptional_truth h]
      rfl
  | connectTimeout =>
      rw [storeField, readOptional_word64 hdigits hexact.connectTimeout h]
      rfl
  | socket =>
      have hsettings : ∀ settings ∈ config.socket, SettingsWrittenAs settings value →
          settingsRecord.read {} value = .ok settings :=
        fun settings hmem hwritten =>
          read_settings (hexact.socket settings hmem) hdigits hwritten
      rw [storeField, readOptional_eq_self (fun _ => ⟨_, rfl⟩) hsettings h]
      rfl

/-- A configuration is taken over field by field. -/
theorem takes_config {config : Config} (hexact : config.IsExact) :
    configRecord.Takes (FieldWrittenAs config) (takeField config) {} where
  store hdigits hwritten s := storeField_of_written hexact hdigits hwritten s
  null field place := by cases field <;> rfl
  comm field other s := by cases field <;> cases other <;> rfl

/-- **A configuration is read from every shape it is written in**, as an object with its fields in
any order or as an array of them. -/
theorem read_config {config : Config} (hexact : config.IsExact) {value : Value}
    (hdigits : value.HasDigits) (h : config.WrittenAs value) :
    configRecord.read {} value = .ok config := by
  rw [(takes_config hexact).read configRecord_isNamed.nodup hdigits h]
  rfl

/-- An object that gives a field twice is not read, whichever of the two would have been refused: if
it were read, all its fields would be different. -/
theorem read_error_of_givesTwice {ι σ : Type} [DecidableEq ι] {record : Record ι σ} {start : σ}
    {place : ℕ} {entries : List (Key × Value)} (h : record.GivesTwice entries) :
    ∃ fault, record.read start (.object place entries) = .error fault := by
  cases hread : record.read start (.object place entries) with
  | error fault => exact ⟨fault, rfl⟩
  | ok result => exact absurd h (Record.not_givesTwice_of_readEntries hread)

/-- Neither is a configuration whose section of settings gives an option twice. -/
theorem read_error_of_socket_givesTwice {place : ℕ} {entries : List (Key × Value)}
    {entry : Key × Value} (hentry : entry ∈ entries)
    (hsocket : configRecord.fieldOf? entry.1 = some .socket) {inner : ℕ}
    {options : List (Key × Value)} (hobject : entry.2 = .object inner options)
    (h : settingsRecord.GivesTwice options) :
    ∃ fault, configRecord.read {} (.object place entries) = .error fault := by
  cases hread : configRecord.read {} (.object place entries) with
  | error fault => exact ⟨fault, rfl⟩
  | ok config =>
      obtain ⟨before, after, hstore⟩ :=
        Record.store_of_readEntries hread entry hentry .socket hsocket
      obtain ⟨fault, hfault⟩ : ∃ fault, settingsRecord.read {} (.object inner options) =
          .error fault := read_error_of_givesTwice h
      have hstore : storeField .socket entry.2 before = .ok after := hstore
      rw [storeField, hobject, readOptional, hfault] at hstore
      · cases hstore
      · intro _ h
        cases h

/-! ## Texts -/

/-- **A configuration is read from every text that writes it**, if its numbers are at most
`2 ^ 53` and its time to linger is a whole number of milliseconds: the spelling of the text, the
order of the keys, the keys that nobody knows, the choice between `null` and nothing and the one
between objects and arrays do not matter.  An object that gives a field twice, or whose section of
settings is an object that gives an option twice, is refused. -/
theorem ofText_of_writtenAs (text : String) (value : Value)
    (hspells : Json5.SpellsText text.toList value) :
    (∀ config : Config, config.IsExact → config.WrittenAs value → ofText text = .ok config) ∧
      (∀ place entries, value = .object place entries →
        (configRecord.GivesTwice entries ∨
          ∃ entry ∈ entries, configRecord.fieldOf? entry.1 = some .socket ∧
            ∃ place options, entry.2 = .object place options ∧
              settingsRecord.GivesTwice options) →
        ∃ complaint position, ofText text = .error (.refused complaint position)) := by
  have hparse : Json5.parse? text.toList = some value := Json5.parse?_eq_some_iff.mpr hspells
  have hdigits : value.HasDigits := Json5.hasDigits_of_spellsText hspells
  constructor
  · intro config hexact hwritten
    rw [ofText, read, hparse]
    dsimp only
    rw [read_config hexact hdigits hwritten]
  · intro place entries hobject htwice
    subst hobject
    have hrefused : ∃ fault, configRecord.read {} (.object place entries) = .error fault := by
      rcases htwice with htwice | ⟨entry, hentry, hsocket, inner, options, hinner, htwice⟩
      · exact read_error_of_givesTwice htwice
      · exact read_error_of_socket_givesTwice hentry hsocket hinner htwice
    obtain ⟨fault, hfault⟩ := hrefused
    refine ⟨fault.complaint, Position.ofPlace text.toList fault.place, ?_⟩
    rw [ofText, read, hparse]
    dsimp only
    rw [hfault]

/-- A text with a key that nobody knows, a field that is left out, two ways of writing numbers, and
settings as an array. -/
def mixedText : String :=
  "\x7bx:[-7],socket:[null,null,25e1,null,null,null,null,null],connect_timeout_ms:0x9c4,\x7d"

/-- The value it is. -/
def mixedValue : Value :=
  .object 83
    [(⟨82, [.plain 'x']⟩, .array 80 [.number 79 ⟨.minus, .decimal [7] none none⟩]),
      (⟨75, "socket".toList.map .plain⟩, .array 68 [.null 67, .null 62,
        .number 57 ⟨.none, .decimal [2, 5] none (some 1)⟩, .null 52, .null 47, .null 42, .null 37,
        .null 32]),
      (⟨26, "connect_timeout_ms".toList.map .plain⟩, .number 7 ⟨.none, .hexadecimal [9, 12, 4]⟩)]

/-- The configuration it writes. -/
def mixedConfig : Config where
  connectTimeout := some 2500
  socket := some { linger := some (Duration.ofMilliseconds 250) }

/-- Every field is written, the one that is missing by being left out. -/
theorem writtenAs_mixedValue : mixedConfig.WrittenAs mixedValue := by
  have hother : configRecord.fieldOf? ⟨82, [.plain 'x']⟩ = none := by decide +kernel
  have hsocket : configRecord.fieldOf? ⟨75, "socket".toList.map .plain⟩ = some .socket := by
    decide +kernel
  have htimeout : configRecord.fieldOf? ⟨26, "connect_timeout_ms".toList.map .plain⟩ =
      some .connectTimeout := by decide +kernel
  have hlinger : Number.Writes ⟨.none, .decimal [2, 5] none (some 1)⟩ 250 :=
    ⟨by norm_num [Number.value?, NumberBody.value?, Sign.factor, Digits.ofDigits], nofun⟩
  have hnumber : Number.Writes ⟨.none, .hexadecimal [9, 12, 4]⟩ 2500 :=
    ⟨by norm_num [Number.value?, NumberBody.value?, Sign.factor, Digits.ofDigits],
      fun _ _ => ⟨rfl, by decide⟩⟩
  refine ⟨?known, ?unknown, by decide +kernel, ?complete⟩
  case known =>
    refine List.forall_mem_cons.mpr ⟨?_, List.forall_mem_cons.mpr ⟨?_,
      List.forall_mem_singleton.mpr ?_⟩⟩
    · intro field hfield
      rw [hother] at hfield
      cases hfield
    · intro field hfield
      rw [hsocket] at hfield
      cases hfield
      exact .cons ⟨_, rfl⟩ <| .cons ⟨_, rfl⟩ <| .cons ⟨_, _, rfl, hlinger⟩ <| .cons ⟨_, rfl⟩ <|
        .cons ⟨_, rfl⟩ <| .cons ⟨_, rfl⟩ <| .cons ⟨_, rfl⟩ <| .cons ⟨_, rfl⟩ .nil
    · intro field hfield
      rw [htimeout] at hfield
      cases hfield
      exact ⟨_, _, rfl, hnumber⟩
  case unknown =>
    refine List.forall_mem_cons.mpr ⟨?_, List.forall_mem_cons.mpr ⟨?_,
      List.forall_mem_singleton.mpr ?_⟩⟩
    · intro _
      have hseven : Number.IsReadable ⟨.minus, .decimal [7] none none⟩ := by
        constructor <;> decide
      exact ⟨⟨"x", rfl⟩, .array _ (List.forall_mem_singleton.mpr (.number _ hseven))⟩
    · intro hnone
      rw [hsocket] at hnone
      cases hnone
    · intro hnone
      rw [htimeout] at hnone
      cases hnone
  case complete =>
    intro field _ hmissing place
    cases field with
    | ipv4Only => exact ⟨place, rfl⟩
    | connectTimeout | socket => exact absurd (by decide +kernel) hmissing

/-- A text that gives an option twice, once as `null`. -/
def repeatedText : String :=
  "\x7bsocket:\x7bnodelay:true,nodelay:null\x7d\x7d"

/-- The one is read, and the other one is refused. -/
theorem ofText_mixedText :
    (Json5.SpellsText mixedText.toList mixedValue ∧ mixedConfig.IsExact ∧
      mixedConfig.WrittenAs mixedValue ∧ ofText mixedText = .ok mixedConfig) ∧
    ∃ place entries, Json5.SpellsText repeatedText.toList (.object place entries) ∧
      (∃ entry ∈ entries, configRecord.fieldOf? entry.1 = some .socket ∧
        ∃ place options, entry.2 = .object place options ∧ settingsRecord.GivesTwice options) ∧
      ∃ complaint position, ofText repeatedText = .error (.refused complaint position) := by
  constructor
  · have hspells : Json5.SpellsText mixedText.toList mixedValue := by
      rw [← Json5.parse?_eq_some_iff]
      simp only [mixedText, String.reduceToList]
      rfl
    have hexact : mixedConfig.IsExact := by
      refine ⟨fun n hn => ?_, fun settings hsettings => ?_⟩
      · cases hn
        decide
      · cases hsettings
        exact ⟨fun d hd => ⟨250, by decide, (Option.some.inj hd).symm⟩, nofun, nofun⟩
    exact ⟨hspells, hexact, writtenAs_mixedValue,
      (ofText_of_writtenAs _ _ hspells).1 _ hexact writtenAs_mixedValue⟩
  · have hspells : Json5.SpellsText repeatedText.toList (.object 36
        [(⟨35, "socket".toList.map .plain⟩, .object 28
          [(⟨27, "nodelay".toList.map .plain⟩, .boolean 19 true),
            (⟨14, "nodelay".toList.map .plain⟩, .null 6)])]) := by
      rw [← Json5.parse?_eq_some_iff]
      simp only [repeatedText, String.reduceToList]
      rfl
    have htwice : settingsRecord.GivesTwice
        [(⟨27, "nodelay".toList.map .plain⟩, .boolean 19 true),
          (⟨14, "nodelay".toList.map .plain⟩, .null 6)] :=
      List.exists_duplicate_iff_not_nodup.mpr (by decide +kernel)
    have hsocket : configRecord.fieldOf? ⟨35, "socket".toList.map .plain⟩ = some .socket := by
      decide +kernel
    refine ⟨_, _, hspells, ?_, (ofText_of_writtenAs _ _ hspells).2 _ _ rfl (.inr ?_)⟩
    · exact ⟨_, List.mem_singleton_self _, hsocket, _, _, rfl, htwice⟩
    · exact ⟨_, List.mem_singleton_self _, hsocket, _, _, rfl, htwice⟩

/-- A number that does not fit in 32 bits is refused in base sixteen, and so is a smaller one with a
sign, although a configuration could have either of them. -/
theorem ofText_hexadecimal_refused :
    (∃ place key inner number,
      Json5.SpellsText "\x7bconnect_timeout_ms: 0x100000000\x7d".toList
        (.object place [(key, .number inner number)]) ∧
      configRecord.fieldOf? key = some .connectTimeout ∧ number.value? = some 4294967296 ∧
      Config.IsExact { connectTimeout := some 4294967296 } ∧
      ofText "\x7bconnect_timeout_ms: 0x100000000\x7d" = .error (.refused .hexadecimal ⟨1, 22⟩)) ∧
    ∃ place key inner number,
      Json5.SpellsText "\x7bconnect_timeout_ms: +0x10\x7d".toList
        (.object place [(key, .number inner number)]) ∧
      configRecord.fieldOf? key = some .connectTimeout ∧ number.value? = some 16 ∧
      Config.IsExact { connectTimeout := some 16 } ∧
      ofText "\x7bconnect_timeout_ms: +0x10\x7d" = .error (.refused .number ⟨1, 22⟩) := by
  have hkey (place : ℕ) : configRecord.fieldOf? ⟨place, "connect_timeout_ms".toList.map .plain⟩ =
      some .connectTimeout := by
    have hname : readKey ⟨place, "connect_timeout_ms".toList.map .plain⟩ =
        .ok "connect_timeout_ms" := rfl
    rw [Record.fieldOf?_of_readKey hname]
    decide
  have hexact {n : UInt64} (hn : n.toNat ≤ 2 ^ 53) : Config.IsExact { connectTimeout := some n } :=
    ⟨fun _ hmem => Option.some.inj hmem ▸ hn, nofun⟩
  constructor
  · have hparse : Json5.parse? "\x7bconnect_timeout_ms: 0x100000000\x7d".toList =
        some (.object 33 [(⟨32, "connect_timeout_ms".toList.map .plain⟩,
          .number 12 ⟨.none, .hexadecimal [1, 0, 0, 0, 0, 0, 0, 0, 0]⟩)]) := by
      simp only [String.reduceToList]
      rfl
    refine ⟨_, _, _, _, Json5.parse?_eq_some_iff.mp hparse, hkey 32, ?_, hexact (by decide), ?_⟩
    · norm_num [Number.value?, NumberBody.value?, Sign.factor, Digits.ofDigits]
    · rw [ofText, read, hparse]
      simp only [String.reduceToList]
      rfl
  · have hparse : Json5.parse? "\x7bconnect_timeout_ms: +0x10\x7d".toList =
        some (.object 27 [(⟨26, "connect_timeout_ms".toList.map .plain⟩,
          .number 6 ⟨.plus, .hexadecimal [1, 0]⟩)]) := by
      simp only [String.reduceToList]
      rfl
    refine ⟨_, _, _, _, Json5.parse?_eq_some_iff.mp hparse, hkey 26, ?_, hexact (by decide), ?_⟩
    · norm_num [Number.value?, NumberBody.value?, Sign.factor, Digits.ofDigits]
    · rw [ofText, read, hparse]
      simp only [String.reduceToList]
      rfl

end RelayRoute.Config
