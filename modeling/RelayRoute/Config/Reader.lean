import RelayRoute.Config
import RelayRoute.Config.Scalar
import RelayRoute.Json5.Grammar

/-!
# Reading configuration texts

A configuration is an object with the fields by name, in any order and each at most once, or an
array of the fields in their order.  Fields that nobody knows are read and forgotten, so that what
is wrong in them is still found; items of an array beyond the last field are not read.  An error is
reported at the innermost value or key that could not be read.

* `ignore` — a value that is not used is read nevertheless;
* `readOptional`, `readBoolean`, `readNatural` — values of one kind, with a complaint about others;
* `Record` — how a record is read, whatever its fields are: `Record.readEntries` from an object, and
  `Record.readItems` from an array;
* `settingsRecord`, `configRecord` — settings and configurations are two such records;
* `read`, `ofText` — a configuration from its text.
-/

namespace RelayRoute.Config

open Json5

/-- A complaint and the place it is about, counted in characters from the end of the text. -/
structure Fault where
  complaint : Complaint
  place : Nat

/-- Puts a complaint at a place. -/
def locate {α : Type} (place : Nat) : Except Complaint α → Except Fault α
  | .ok a => .ok a
  | .error complaint => .error ⟨complaint, place⟩

/-- The text of a key, whether it is written as an identifier or as a string.  A complaint about it
is put at the key. -/
def readKey (key : Key) : Except Fault String :=
  locate key.place (readString key.parts)

mutual

/-- Reads a value that is not used: its numbers and strings have to be what they could be anywhere
else. -/
def ignore : Value → Except Fault Unit
  | .null _ | .boolean _ _ => .ok ()
  | .number place number => locate place ((classifyNumber number).map fun _ => ())
  | .string place parts => locate place ((readString parts).map fun _ => ())
  | .array _ items => ignoreItems items
  | .object _ entries => ignoreEntries entries

/-- Reads items that are not used. -/
def ignoreItems : List Value → Except Fault Unit
  | [] => .ok ()
  | item :: items => do
    ignore item
    ignoreItems items

/-- Reads entries that are not used. -/
def ignoreEntries : List (Key × Value) → Except Fault Unit
  | [] => .ok ()
  | (key, value) :: entries => do
    let _ ← readKey key
    ignore value
    ignoreEntries entries

end

/-- What a value is, told apart where something else was wanted. -/
def classify : Value → Except Complaint Found
  | .null _ => .ok .null
  | .boolean _ b => .ok (.boolean b)
  | .number _ number => classifyNumber number
  | .string _ parts => (readString parts).map .string
  | .array _ _ => .ok .array
  | .object _ _ => .ok .object

/-- Refuses a value where something else was wanted. -/
def refuse {α : Type} (wanted : Wanted) (value : Value) : Except Fault α :=
  locate value.place <| (classify value).bind fun found => .error (.wrongType found wanted)

/-- A value that may be left out by writing `null`.  Anything else has to be the value. -/
def readOptional {α : Type} (read : Value → Except Fault α) : Value → Except Fault (Option α)
  | .null _ => .ok none
  | value => (read value).map some

/-- A truth value.  Nothing else is taken for one, neither a number nor a string. -/
def readBoolean : Value → Except Fault Bool
  | .boolean _ b => .ok b
  | value => refuse .boolean value

/-- A natural number below a bound.  Numbers are read as floating-point values, whichever way they
are written: the fraction is cut off, and what lies outside the range is moved to its nearer end. -/
def readNatural (bound : Nat) : Value → Except Fault Nat
  | .number place number => locate place ((readFloat number).map (·.truncate bound))
  | value => .error ⟨.number, value.place⟩

/-- A natural number of 64 bits. -/
def readWord64 (value : Value) : Except Fault UInt64 :=
  (readNatural UInt64.size value).map UInt64.ofNat

/-- A natural number of 32 bits. -/
def readWord32 (value : Value) : Except Fault UInt32 :=
  (readNatural UInt32.size value).map UInt32.ofNat

/-! ## Records -/

/-- How a record is read: its fields, their names, which of them an array may end before, and how a
field is stored in the record. -/
structure Record (ι σ : Type) where
  wanted : Wanted
  fields : List ι
  name : ι → String
  mayEndBefore : ι → Bool
  store : ι → Value → σ → Except Fault σ

namespace Record

variable {ι σ : Type} [DecidableEq ι]

/-- The field with a name, if anybody knows it.  Names are compared letter by letter, after escapes
have been resolved. -/
def field? (record : Record ι σ) (name : String) : Option ι :=
  record.fields.find? fun field => record.name field == name

/-- Stores the entries of an object that stands at a place; `seen` are the fields stored so far.  A
field that comes a second time is a complaint about the object, and an entry that nobody knows may
come as often as it likes. -/
def readEntries (record : Record ι σ) (place : Nat) :
    (seen : List ι) → List (Key × Value) → σ → Except Fault σ
  | _, [], s => .ok s
  | seen, (key, value) :: entries, s => do
    let name ← readKey key
    match record.field? name with
    | none =>
      ignore value
      readEntries record place seen entries s
    | some field =>
      if field ∈ seen then .error ⟨.duplicate name, place⟩
      else
        let s ← record.store field value s
        readEntries record place (field :: seen) entries s

/-- Stores the items of an array that stands at a place, one for each field; `index` of them are
stored already.  The items after the last field are not looked at. -/
def readItems (record : Record ι σ) (place : Nat) :
    (index : Nat) → (fields : List ι) → List Value → σ → Except Fault σ
  | _, [], _, s => .ok s
  | index, field :: fields, [], s =>
    if record.mayEndBefore field then readItems record place (index + 1) fields [] s
    else .error ⟨.incomplete index record.wanted, place⟩
  | index, field :: fields, item :: items, s => do
    let s ← record.store field item s
    readItems record place (index + 1) fields items s

/-- Reads a record, given what it is before anything is stored. -/
def read (record : Record ι σ) (start : σ) : Value → Except Fault σ
  | .object place entries => record.readEntries place [] entries start
  | .array place items => record.readItems place 0 record.fields items start
  | value => refuse record.wanted value

end Record

/-- Stores an option in settings, or takes it out where `null` is written.  The time to linger is
given in milliseconds. -/
def storeOption (option : SocketOption) (value : Value) (s : Settings) :
    Except Fault Settings :=
  match option with
  | .nodelay => (readOptional readBoolean value).map fun v => { s with nodelay := v }
  | .keepalive => (readOptional readBoolean value).map fun v => { s with keepalive := v }
  | .linger =>
    (readOptional readWord64 value).map fun v =>
      { s with linger := v.map fun n => Duration.ofMilliseconds n.toNat }
  | .outOfBandInline =>
    (readOptional readBoolean value).map fun v => { s with outOfBandInline := v }
  | .sendBufferSize => (readOptional readWord64 value).map fun v => { s with sendBufferSize := v }
  | .receiveBufferSize =>
    (readOptional readWord64 value).map fun v => { s with receiveBufferSize := v }
  | .trafficClass => (readOptional readWord32 value).map fun v => { s with trafficClass := v }
  | .reuseAddress => (readOptional readBoolean value).map fun v => { s with reuseAddress := v }

/-- Settings of sockets as a record.  An array may end before the time to linger. -/
def settingsRecord : Record SocketOption Settings where
  wanted := .settings
  fields := SocketOption.all
  name := optionName
  mayEndBefore := (· == .linger)
  store := storeOption

/-- Stores a field in a configuration, or takes it out where `null` is written. -/
def storeField (field : Field) (value : Value) (s : Config) : Except Fault Config :=
  match field with
  | .ipv4Only => (readOptional readBoolean value).map fun v => { s with ipv4Only := v }
  | .connectTimeout => (readOptional readWord64 value).map fun v => { s with connectTimeout := v }
  | .socket => (readOptional (settingsRecord.read {}) value).map fun v => { s with socket := v }

/-- A configuration as a record.  An array has to have an item for each field. -/
def configRecord : Record Field Config where
  wanted := .config
  fields := Field.all
  name := Field.name
  mayEndBefore := fun _ => false
  store := storeField

/-- The configuration that a text is. -/
def read (text : List Char) : Except Error Config :=
  match Json5.parse? text with
  | none => .error .notJson5
  | some value =>
    match configRecord.read {} value with
    | .ok config => .ok config
    | .error fault => .error (.refused fault.complaint (Json5.Position.ofPlace text fault.place))

/-- The configuration that a string is. -/
def ofText (text : String) : Except Error Config :=
  read text.toList

end RelayRoute.Config
