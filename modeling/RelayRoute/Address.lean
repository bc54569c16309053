import RelayRoute.Host
import RelayRoute.Endpoint

/-!
# Addresses

A host and a port: what a proxy is found at, and what it is asked to relay to.  The host of an
address may be a domain name that nobody has looked up.

* `Address.text` — an address is written with a colon between host and port, and with brackets
  around an IPv6 host;
* `Address.readParts` — a text is cut at its last colon, and the parts name a host and a port;
* `Address.read` — a text is tried as a socket address first, and by its parts after that.

That the order of the two makes no difference, but for scopes, is `Address.ofText_parts`.
-/

namespace RelayRoute

/-- A host and a port.  The host may be a name, so an address need not be one that can be dialed as
it is. -/
structure Address where
  host : Host
  port : UInt16
  deriving DecidableEq

namespace Address

/-- The address of a port at a host given as text. -/
def ofHost (host : String) (port : UInt16) : Except InvalidAddress Address :=
  (Host.ofText host).map (⟨·, port⟩)

/-- The address that a socket address is.  Flow information and scope are lost, and an IPv6 address
that stands for an IPv4 one becomes that. -/
def ofSocketAddress (address : SocketAddress) : Address :=
  ⟨Host.ofIp address.ip, address.port⟩

/-- The text of an address; an IPv6 host is bracketed, so the last colon stands in front of the
port. -/
def text (address : Address) : String :=
  address.host.bracketed ++ ":" ++ Digits.decimal address.port.toNat

/-- The address that a text names by a host, a colon and a port.  The last colon is the one that
counts.  A port may start with a plus sign; a port that is none makes the whole text invalid, and a
host that is none only the host. -/
def readParts (text : List Char) : Except InvalidAddress Address :=
  match Text.splitLast? ':' text with
  | none => .error ⟨String.ofList text⟩
  | some (host, port) =>
    match portFormat.readSigned? port with
    | none => .error ⟨String.ofList text⟩
    | some port => (Host.read host).map (⟨·, UInt16.ofNat port⟩)

/-- The address that a text is: a socket address, or a host and a port.  Which of the two it is does
not show in the address.  The first form alone allows a scope, which is then lost. -/
def read (text : List Char) : Except InvalidAddress Address :=
  match SocketAddress.read? text with
  | some address => .ok (ofSocketAddress address)
  | none => readParts text

/-- The address that a string is. -/
def ofText (text : String) : Except InvalidAddress Address :=
  read text.toList

end Address

end RelayRoute
