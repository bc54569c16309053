import RelayRoute.Proofs.Printed
import RelayRoute.Proofs.RecordShape
import RelayRoute.Proofs.Rounding

/-!
# Configurations are read as they were printed, up to rounding

Numbers are printed digit by digit and read as floating-point values, so those of 64 bits come back
rounded (`roundWord`), and the time to linger is printed in whole milliseconds.  `Config.rounded` is
what is left of a configuration; everything else is kept, settings without any value among it.

* `Config.IsExact`, `rounded_of_isExact` — configurations that rounding does not change;
* `prints_rounded`, `prints_optional` — numbers, and values that may be missing, are read as they
  were printed, up to rounding;
* `Record.IsNamed`, `Record.IsNamed.prints` — whatever the fields of a record are, if they can be
  told apart by their names, an object with each of them once is read field by field;
* `prints_settings`, `prints_field` — settings and configurations are such records;
* `ofText_text_eq_rounded` — the main result.
-/

namespace RelayRoute

open Json5

namespace Config

/-- The number of 64 bits nearest to what a number is rounded to. -/
def roundWord (n : UInt64) : UInt64 :=
  UInt64.ofNat (min (UInt64.size - 1) (Binary64.roundWhole n.toNat))

end Config

/-- Settings with their numbers rounded, and with a time to linger in whole milliseconds. -/
def Settings.rounded (settings : Settings) : Settings :=
  { settings with
    linger := settings.linger.map fun d =>
      Duration.ofMilliseconds (Config.roundWord (UInt64.ofNat d.milliseconds)).toNat
    sendBufferSize := settings.sendBufferSize.map Config.roundWord
    receiveBufferSize := settings.receiveBufferSize.map Config.roundWord }

/-- A configuration with its numbers rounded. -/
def Config.rounded (config : Config) : Config :=
  { config with
    connectTimeout := config.connectTimeout.map roundWord
    socket := config.socket.map Settings.rounded }

/-- Settings whose numbers have no more than fifty-three binary digits, and whose time to linger is
a whole number of milliseconds. -/
structure Settings.IsExact (settings : Settings) : Prop where
  linger : ∀ d ∈ settings.linger, ∃ n ≤ 2 ^ 53, d = Duration.ofMilliseconds n
  sendBufferSize : ∀ n ∈ settings.sendBufferSize, n.toNat ≤ 2 ^ 53
  receiveBufferSize : ∀ n ∈ settings.receiveBufferSize, n.toNat ≤ 2 ^ 53

/-- A configuration whose numbers have no more than fifty-three binary digits. -/
structure Config.IsExact (config : Config) : Prop where
  connectTimeout : ∀ n ∈ config.connectTimeout, n.toNat ≤ 2 ^ 53
  socket : ∀ settings ∈ config.socket, settings.IsExact

namespace Config

/-! ## What rounding keeps -/

/-- A number with at most fifty-three binary digits is kept. -/
theorem roundWord_of_le {n : UInt64} (h : n.toNat ≤ 2 ^ 53) : roundWord n = n := by
  have hlt : n.toNat ≤ UInt64.size - 1 := Nat.le_sub_one_of_lt n.toNat_lt_size
  rw [roundWord, Binary64.roundWhole_of_le h, Nat.min_eq_right hlt, UInt64.ofNat_toNat]

example : roundWord 9007199254740993 = 9007199254740992 := by decide +kernel

/-- What a function changes in no value that is there, it does not change. -/
theorem map_eq_self {α : Type} {f : α → α} {a? : Option α} (h : ∀ a ∈ a?, f a = a) :
    a?.map f = a? :=
  (Option.map_congr h).trans Option.map_id'

/-- Settings without too large numbers are kept. -/
theorem rounded_settings {settings : Settings} (h : settings.IsExact) :
    settings.rounded = settings := by
  have hlinger : (settings.linger.map fun d =>
      Duration.ofMilliseconds (roundWord (UInt64.ofNat d.milliseconds)).toNat) =
        settings.linger := by
    refine map_eq_self fun d hd => ?_
    obtain ⟨n, hn, rfl⟩ := h.linger d hd
    have hword : (UInt64.ofNat n).toNat = n :=
      UInt64.toNat_ofNat_of_lt' (Nat.lt_of_le_of_lt hn (by decide))
    rw [Duration.milliseconds_ofMilliseconds, roundWord_of_le (hword.symm ▸ hn), hword]
  rw [Settings.rounded, hlinger,
    map_eq_self fun n hn => roundWord_of_le (h.sendBufferSize n hn),
    map_eq_self fun n hn => roundWord_of_le (h.receiveBufferSize n hn)]

/-- A configuration without too large numbers is kept. -/
theorem rounded_of_isExact {config : Config} (h : config.IsExact) : config.rounded = config := by
  rw [rounded, map_eq_self fun n hn => roundWord_of_le (h.connectTimeout n hn),
    map_eq_self fun settings hsettings => rounded_settings (h.socket settings hsettings)]

/-! ## Values -/

/-- A truth value is read as it was printed. -/
theorem prints_truth (b : Bool) :
    Prints (printBoolean b) fun value => readBoolean value = .ok b :=
  (prints_boolean b).imp fun _ ⟨_, hvalue⟩ => hvalue ▸ rfl

/-- A natural number is read as what it is rounded to, if that is below the bound. -/
theorem prints_rounded {n : Nat} (h : n < 2 ^ 64) (bound : Nat) :
    Prints (printNatural n) fun value =>
      readNatural bound value = .ok (min (bound - 1) (Binary64.roundWhole n)) := by
  refine (prints_natural n).imp ?_
  rintro _ ⟨place, ds, rfl, rfl⟩
  obtain ⟨hvalue, htruncate⟩ := Binary64.ofDecimal_whole h ds.length
  have hdecimal : decimalValue .none ds none none =
      Binary64.ofDecimal false (Digits.ofDigits 10 ds) ds.length 0 := by
    have hsign : (Sign.none == Sign.minus) = false := by decide
    simp [decimalValue, hsign]
  have hfinite : (decimalValue .none ds none none).isFinite := by
    rw [hdecimal]
    exact Binary64.isFinite_of_value? hvalue
  simp only [readNatural, readFloat, hfinite, if_pos]
  rw [Except.map, locate, hdecimal, htruncate]

/-- A number of 64 bits is read as what it is rounded to. -/
theorem prints_word64 (n : UInt64) :
    Prints (printNatural n.toNat) fun value => readWord64 value = .ok (roundWord n) :=
  (prints_rounded n.toNat_lt_size UInt64.size).imp fun _ hvalue => by
    rw [readWord64, hvalue]
    rfl

/-- A number of 32 bits is read as it was printed. -/
theorem prints_word32 (n : UInt32) :
    Prints (printNatural n.toNat) fun value => readWord32 value = .ok n := by
  have hlt : n.toNat ≤ UInt32.size - 1 := Nat.le_sub_one_of_lt n.toNat_lt_size
  have hword : UInt32.size - 1 ≤ 2 ^ 53 := by decide
  have hsmall : n.toNat < 2 ^ 64 := by
    have hpower : 2 ^ 53 < 2 ^ 64 := by decide
    omega
  refine (prints_rounded hsmall UInt32.size).imp fun _ hvalue => ?_
  rw [readWord32, hvalue, Binary64.roundWhole_of_le (Nat.le_trans hlt hword),
    Nat.min_eq_right hlt, Except.map, UInt32.ofNat_toNat]

/-- A value that is read where it may not be missing is read where it may, if `null` is refused as a
value: since it was read, it cannot be `null`. -/
theorem readOptional_of_ok {α : Type} {read : Value → Except Fault α} {value : Value} {a : α}
    (hnull : ∀ place, ∃ fault, read (.null place) = .error fault) (h : read value = .ok a) :
    readOptional read value = .ok (some a) := by
  cases value with
  | null place =>
      obtain ⟨fault, hfault⟩ := hnull place
      rw [hfault] at h
      cases h
  | boolean | number | string | array | object =>
      rw [readOptional, h]
      · rfl
      · nofun

/-- A value that may be missing is read as it was printed, if `null` is refused as a value. -/
theorem prints_optional {α β : Type} {print : α → List Char} {read : Value → Except Fault β}
    (f : α → β) (hnull : ∀ place, ∃ fault, read (.null place) = .error fault)
    (hprints : ∀ a, Prints (print a) fun value => read value = .ok (f a)) (a? : Option α) :
    Prints (printOptional print a?) fun value => readOptional read value = .ok (a?.map f) := by
  cases a? with
  | none => exact prints_null.imp fun _ ⟨_, hvalue⟩ => hvalue ▸ rfl
  | some a => exact (hprints a).imp fun value hvalue => readOptional_of_ok hnull hvalue

/-- A truth value that may be missing is read as it was printed. -/
theorem prints_optional_truth (b? : Option Bool) :
    Prints (printOptional printBoolean b?) fun value =>
      readOptional readBoolean value = .ok b? := by
  have h := prints_optional id (fun _ => ⟨_, rfl⟩) prints_truth b?
  rwa [Option.map_id] at h

/-- A number of 64 bits that may be missing is read as what it is rounded to. -/
theorem prints_optional_word64 (n? : Option UInt64) :
    Prints (printOptional (fun n => printNatural n.toNat) n?) fun value =>
      readOptional readWord64 value = .ok (n?.map roundWord) :=
  prints_optional roundWord (fun _ => ⟨_, rfl⟩) prints_word64 n?

/-! ## Records -/

namespace Record

variable {ι σ : Type} [DecidableEq ι]

/-- A record whose fields are told apart by names without any character that has to be escaped. -/
structure IsNamed (record : Record ι σ) : Prop where
  nonempty : record.fields ≠ []
  nodup : record.fields.Nodup
  known : ∀ field ∈ record.fields, record.field? (record.name field) = some field
  literal : ∀ field ∈ record.fields, (record.name field).toList.all isLiteral

variable {record : Record ι σ} {put : ι → σ → σ}

/-- Entries for different fields, each of them once, are stored one after another.  The induction is
on the fields, with those that were seen so far. -/
theorem readEntries_ok {fields : List ι} {entries : List (Key × Value)}
    (hentries : List.Forall₂ (IsEntry record.name fun field value =>
      ∀ s, record.store field value s = .ok (put field s)) fields entries)
    (hknown : ∀ field ∈ fields, record.field? (record.name field) = some field)
    (hnodup : fields.Nodup) (place : Nat) (start : σ) :
    record.readEntries place [] entries start =
      .ok (fields.foldl (fun s field => put field s) start) := by
  have hstored : record.fieldsOf entries = fields ∧ ∀ entry ∈ entries, ∃ field,
      record.fieldOf? entry.1 = some field ∧
        ∀ s, record.store field entry.2 s = .ok (put field s) := by
    induction hentries with
    | nil => exact ⟨rfl, fun _ hmem => absurd hmem List.not_mem_nil⟩
    | cons hentry _ ih =>
        obtain ⟨hkey, hstore⟩ := hentry
        obtain ⟨hfield, hfields⟩ := List.forall_mem_cons.mp hknown
        obtain ⟨hothers, hall⟩ := ih hfields (List.nodup_cons.mp hnodup).2
        have hnamed := (fieldOf?_of_readKey hkey).trans hfield
        rw [fieldsOf_cons_some hnamed, hothers]
        exact ⟨rfl, List.forall_mem_cons.mpr ⟨⟨_, hnamed, hstore⟩, hall⟩⟩
  obtain ⟨hfields, hstored⟩ := hstored
  rw [← hfields] at hnodup ⊢
  refine readEntries_eq_foldl (fun entry hentry field hfield s => ?_)
    (fun entry hentry hnone => ?_) hnodup (fun _ _ => List.not_mem_nil) place start
  · obtain ⟨other, hother, hstore⟩ := hstored entry hentry
    rw [hother] at hfield
    cases hfield
    exact hstore s
  · obtain ⟨other, hother, -⟩ := hstored entry hentry
    rw [hother] at hnone
    cases hnone

/-- **A record that is printed field by field is read field by field**, into whatever was there at
the start, since every field is in the text. -/
theorem IsNamed.prints (hnamed : record.IsNamed) {print : ι → List Char}
    (hprints : ∀ field, Prints (print field) fun value =>
      ∀ s, record.store field value s = .ok (put field s)) (start : σ) :
    Prints (printObject (record.fields.map fun field => (record.name field, print field)))
      fun value => record.read start value =
        .ok (record.fields.foldl (fun s field => put field s) start) := by
  have hliteral : ∀ field ∈ record.fields, ∀ c ∈ (record.name field).toList, isLiteral c :=
    fun field hfield => List.all_eq_true.mp (hnamed.literal field hfield)
  refine (prints_object hnamed.nonempty hliteral fun field _ => hprints field).imp ?_
  rintro _ ⟨place, entries, rfl, hentries⟩
  exact readEntries_ok hentries hnamed.known hnamed.nodup place start

end Record

/-! ## Settings and configurations -/

/-- The options of a socket are told apart by their names. -/
theorem settingsRecord_isNamed : settingsRecord.IsNamed where
  nonempty := by decide
  nodup := by decide
  known := by decide
  literal := by decide

/-- The fields of a configuration are told apart by their names. -/
theorem configRecord_isNamed : configRecord.IsNamed where
  nonempty := by decide
  nodup := by decide
  known := by decide
  literal := by decide

/-- Settings with the value of one option taken from others. -/
def takeOption (source : Settings) (option : SocketOption) (s : Settings) : Settings :=
  match option with
  | .nodelay => { s with nodelay := source.nodelay }
  | .keepalive => { s with keepalive := source.keepalive }
  | .linger => { s with linger := source.linger }
  | .outOfBandInline => { s with outOfBandInline := source.outOfBandInline }
  | .sendBufferSize => { s with sendBufferSize := source.sendBufferSize }
  | .receiveBufferSize => { s with receiveBufferSize := source.receiveBufferSize }
  | .trafficClass => { s with trafficClass := source.trafficClass }
  | .reuseAddress => { s with reuseAddress := source.reuseAddress }

/-- A configuration with the value of one field taken from another. -/
def takeField (source : Config) (field : Field) (s : Config) : Config :=
  match field with
  | .ipv4Only => { s with ipv4Only := source.ipv4Only }
  | .connectTimeout => { s with connectTimeout := source.connectTimeout }
  | .socket => { s with socket := source.socket }

/-- The value of an option is stored as what it is rounded to.  The cases are the kinds of options:
truth values, numbers of 64 bits, the traffic class, and the time to linger. -/
theorem prints_option (settings : Settings) (option : SocketOption) :
    Prints (printOption settings option) fun value =>
      ∀ s, storeOption option value s = .ok (takeOption settings.rounded option s) := by
  cases option with
  | nodelay | keepalive | outOfBandInline | reuseAddress =>
      refine (prints_optional_truth _).imp fun value hvalue s => ?_
      rw [storeOption, hvalue]
      rfl
  | sendBufferSize | receiveBufferSize =>
      refine (prints_optional_word64 _).imp fun value hvalue s => ?_
      rw [storeOption, hvalue]
      rfl
  | trafficClass =>
      refine (prints_optional id (fun _ => ⟨_, rfl⟩) prints_word32 _).imp fun value hvalue s => ?_
      rw [Option.map_id] at hvalue
      rw [storeOption, hvalue]
      rfl
  | linger =>
      have hmilliseconds (d : Duration) :
          Prints (printNatural (d.milliseconds % UInt64.size)) fun value =>
            readWord64 value = .ok (roundWord (UInt64.ofNat d.milliseconds)) :=
        prints_word64 (UInt64.ofNat d.milliseconds)
      refine (prints_optional _ (fun _ => ⟨_, rfl⟩) hmilliseconds settings.linger).imp
        fun value hvalue s => ?_
      rw [storeOption, hvalue]
      simp [Except.map, takeOption, Settings.rounded, Function.comp_def]

/-- Settings are read as they were printed, up to rounding. -/
theorem prints_settings (settings : Settings) :
    Prints (printSettings settings) fun value =>
      settingsRecord.read {} value = .ok settings.rounded :=
  settingsRecord_isNamed.prints (prints_option settings) {}

/-- The value of a field is stored as what it is rounded to. -/
theorem prints_field (config : Config) (field : Field) :
    Prints (printField config field) fun value =>
      ∀ s, storeField field value s = .ok (takeField config.rounded field s) := by
  cases field with
  | ipv4Only =>
      refine (prints_optional_truth config.ipv4Only).imp fun value hvalue s => ?_
      rw [storeField, hvalue]
      rfl
  | connectTimeout =>
      refine (prints_optional_word64 config.connectTimeout).imp fun value hvalue s => ?_
      rw [storeField, hvalue]
      rfl
  | socket =>
      refine (prints_optional Settings.rounded (fun _ => ⟨_, rfl⟩) prints_settings
        config.socket).imp fun value hvalue s => ?_
      rw [storeField, hvalue]
      rfl

/-- A section of settings is still there, and still empty, if it was.  Rounding sets no option that
was not set. -/
theorem rounded_socket (config : Config) :
    (config.rounded.socket = none ↔ config.socket = none) ∧
      (config.rounded.socket = some {} ↔ config.socket = some {}) := by
  have hempty (settings : Settings) : settings.rounded = {} ↔ settings = {} := by
    cases settings
    simp [Settings.rounded]
  cases hsocket : config.socket with
  | none => simp [rounded, hsocket]
  | some settings => simp [rounded, hsocket, hempty]

/-- **Every configuration is read from its own text, up to rounding.**  A number of 64 bits becomes
the floating-point value that is nearest to it, and so do the milliseconds to linger; truth values,
traffic classes and what is missing are kept, and a missing section of settings is not mistaken for
an empty one.  So what has no number above `2 ^ 53` is read as it is. -/
theorem ofText_text_eq_rounded (config : Config) :
    ofText config.text = .ok config.rounded ∧
      (∀ (n : UInt64) (x : ℚ),
        Binary64.IsNearest n.toNat x ↔ x = Binary64.roundWhole n.toNat) ∧
      (config.rounded.socket = none ↔ config.socket = none) ∧
      (config.rounded.socket = some {} ↔ config.socket = some {}) ∧
      (config.IsExact → ofText config.text = .ok config) := by
  have hread : ofText config.text = .ok config.rounded := by
    obtain ⟨value, hparse, hvalue⟩ :=
      (configRecord_isNamed.prints (prints_field config) {}).parse
    have htext : config.text.toList = config.print := String.toList_ofList
    have hparse : parse? config.print = some value := hparse
    rw [ofText, htext, read, hparse]
    dsimp only
    rw [hvalue]
    rfl
  have hnearest (n : UInt64) (x : ℚ) :
      Binary64.IsNearest n.toNat x ↔ x = Binary64.roundWhole n.toNat := by
    have hround := Binary64.isNearest_roundWhole n.toNat_lt_size
    exact ⟨fun h => h.unique hround, fun h => h ▸ hround⟩
  obtain ⟨habsent, hempty⟩ := rounded_socket config
  refine ⟨hread, hnearest, habsent, hempty, fun hexact => ?_⟩
  rw [hread, rounded_of_isExact hexact]

/-- A configuration whose numbers are the largest up to which all are kept. -/
def atLimit : Config where
  connectTimeout := some 9007199254740992
  socket := some { linger := some (Duration.ofMilliseconds 9007199254740992) }

/-- They are kept. -/
theorem ofText_text_atLimit : atLimit.IsExact ∧ ofText atLimit.text = .ok atLimit := by
  have hlinger : (9007199254740992 : Nat) ≤ 2 ^ 53 := by decide
  have hsettings : Settings.IsExact { linger := some (Duration.ofMilliseconds 9007199254740992) } :=
    ⟨by rintro _ ⟨⟩; exact ⟨_, hlinger, rfl⟩, nofun, nofun⟩
  have hexact : atLimit.IsExact :=
    ⟨by rintro _ ⟨⟩; decide, by rintro _ ⟨⟩; exact hsettings⟩
  exact ⟨hexact, (ofText_text_eq_rounded atLimit).2.2.2.2 hexact⟩

end Config

end RelayRoute
