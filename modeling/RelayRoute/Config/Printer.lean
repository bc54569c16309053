import RelayRoute.Config
import RelayRoute.Number.Digits
import RelayRoute.Text.Split

/-!
# Printing configurations

The text of a configuration is one object without blanks, with all fields in their order and `null`
for those that are missing.  The time to linger is written in whole milliseconds, of which the
lowest 64 bits are kept.

* `printObject` — an object of named values that are printed already;
* `printOption`, `printSettings` — settings of sockets;
* `printField`, `print` — configurations; `Config.text` is the string.
-/

namespace RelayRoute.Config

/-- A truth value. -/
def printBoolean (b : Bool) : List Char :=
  if b then ['t', 'r', 'u', 'e'] else ['f', 'a', 'l', 's', 'e']

/-- A value that may be missing: `null` is written if it is. -/
def printOptional {α : Type} (print : α → List Char) : Option α → List Char
  | none => ['n', 'u', 'l', 'l']
  | some a => print a

/-- A number in base ten, without leading zeros. -/
def printNatural (n : Nat) : List Char :=
  Digits.write 10 n

/-- An object of named values that are printed already.  Names are quoted and hold no character that
would have to be escaped; there are no blanks and no comma behind the last entry. -/
def printObject (entries : List (String × List Char)) : List Char :=
  '\x7b' ::
    Text.join ',' (entries.map fun (name, value) => '"' :: name.toList ++ '"' :: ':' :: value)
    ++ ['\x7d']

/-- The value of an option, or `null` if it is not to be set.  The time to linger is cut to whole
milliseconds, and these to 64 bits. -/
def printOption (settings : Settings) : SocketOption → List Char
  | .nodelay => printOptional printBoolean settings.nodelay
  | .keepalive => printOptional printBoolean settings.keepalive
  | .linger => printOptional (fun d => printNatural (d.milliseconds % UInt64.size)) settings.linger
  | .outOfBandInline => printOptional printBoolean settings.outOfBandInline
  | .sendBufferSize => printOptional (fun n => printNatural n.toNat) settings.sendBufferSize
  | .receiveBufferSize => printOptional (fun n => printNatural n.toNat) settings.receiveBufferSize
  | .trafficClass => printOptional (fun n => printNatural n.toNat) settings.trafficClass
  | .reuseAddress => printOptional printBoolean settings.reuseAddress

/-- Settings of sockets: an object with an entry for each option, also for those that are not to be
set. -/
def printSettings (settings : Settings) : List Char :=
  printObject (SocketOption.all.map fun option => (optionName option, printOption settings option))

/-- The value of a field, or `null` if it is missing. -/
def printField (config : Config) : Field → List Char
  | .ipv4Only => printOptional printBoolean config.ipv4Only
  | .connectTimeout => printOptional (fun n => printNatural n.toNat) config.connectTimeout
  | .socket => printOptional printSettings config.socket

/-- A configuration: an object with an entry for each field, also for those that are missing. -/
def print (config : Config) : List Char :=
  printObject (Field.all.map fun field => (field.name, printField config field))

/-- A configuration as a string. -/
def text (config : Config) : String :=
  String.ofList config.print

end RelayRoute.Config
