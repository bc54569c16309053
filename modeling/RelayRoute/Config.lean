import RelayRoute.Settings

/-!
# Configuration

The configuration of a connection, as it is usually kept in a file: the preference for IPv4, the
time a dial may take, and settings for the sockets that are dialed.  Every field may be missing, and
so may every setting; what that means is said by `Config.prefersIpv4`, `Config.timeout` and
`Config.settings`.

The names of fields (`Field.name`) and options (`optionName`) are those of the text of a
configuration, which is printed and read elsewhere.
-/

namespace RelayRoute

/-- The configuration of a connection; what is missing is left to the program, or to the system
where it is a setting. -/
structure Config where
  ipv4Only : Option Bool := none
  /-- The time a dial may take, in milliseconds. -/
  connectTimeout : Option UInt64 := none
  socket : Option Settings := none
  deriving DecidableEq

namespace Config

/-- Whether IPv4 is preferred, which it is not unless the configuration says so. -/
def prefersIpv4 (config : Config) : Bool :=
  config.ipv4Only.getD false

/-- The time a dial may take, if it is limited.  A limit of zero is a limit, too. -/
def timeout (config : Config) : Option Duration :=
  config.connectTimeout.map fun n => Duration.ofMilliseconds n.toNat

/-- The settings to make on sockets. -/
def settings (config : Config) : Settings :=
  config.socket.getD {}

/-- A field of a configuration. -/
inductive Field
  | ipv4Only
  | connectTimeout
  | socket
  deriving DecidableEq

/-- The fields in the order in which they are written. -/
def Field.all : List Field :=
  [.ipv4Only, .connectTimeout, .socket]

/-- The name of a field in a configuration text. -/
def Field.name : Field → String
  | .ipv4Only => "ipv4_only"
  | .connectTimeout => "connect_timeout_ms"
  | .socket => "socket"

/-- The name of an option in a configuration text. -/
def optionName : SocketOption → String
  | .nodelay => "nodelay"
  | .keepalive => "keepalive"
  | .linger => "linger_ms"
  | .outOfBandInline => "out_of_band_inline"
  | .sendBufferSize => "send_buffer_size"
  | .receiveBufferSize => "recv_buffer_size"
  | .trafficClass => "traffic_class"
  | .reuseAddress => "reuse_address"

end Config

end RelayRoute
