import RelayRoute.Ip.Printer
import RelayRoute.Ip.Reader
import RelayRoute.Name.Domain

/-!
# Hosts

A host is an address of either family or a domain name in its ASCII form.  An IPv6 address that
stands for an IPv4 one is that IPv4 address, whichever way a host is made of it.

* `Host.ofIp` — the host that an address is;
* `Host.read` — the host that a text names: brackets are taken off, then the text is tried as an IP
  literal, and as a domain name if it is none;
* `Host.text`, `Host.bracketed` — the text of a host, alone and in front of a port.
-/

namespace RelayRoute

/-- Where a connection leads.  A domain is kept in its ASCII form, and nobody has looked it up yet.
-/
inductive Host
  | v4 (address : Ipv4)
  | v6 (address : Ipv6)
  | domain (name : String)
  deriving DecidableEq

/-- A text that is no host, or no address; `text` is the part that was refused. -/
structure InvalidAddress where
  text : String
  deriving DecidableEq

namespace Host

/-- The host that an address is.  An address that stands for an IPv4 one in IPv6 form is turned into
that first. -/
def ofIp (ip : Ip) : Host :=
  match ip.canonical with
  | .v4 ip => .v4 ip
  | .v6 ip => .v6 ip

/-- A text without the brackets around it, if there are both.  Only one pair is taken off. -/
def stripBrackets : List Char → List Char
  | '[' :: rest => if rest.getLast? = some ']' then rest.dropLast else '[' :: rest
  | text => text

/-- The host that a text names: an IP literal, bracketed or not, or a domain name.  The literal is
tried on the text as it is, and only the name is mapped to ASCII.  A text that is neither is refused
without its brackets. -/
def read (text : List Char) : Except InvalidAddress Host :=
  let text := stripBrackets text
  match Ip.read? text with
  | some ip => .ok (ofIp ip)
  | none =>
    match Name.Domain.ofText? text with
    | some name => .ok (.domain (String.ofList name))
    | none => .error ⟨String.ofList text⟩

/-- The host that a string names. -/
def ofText (text : String) : Except InvalidAddress Host :=
  read text.toList

/-- The text of a host, by which it is looked up and under which failures name it.  There are no
brackets around it. -/
def text : Host → String
  | .v4 ip => (Ip.v4 ip).text
  | .v6 ip => (Ip.v6 ip).text
  | .domain name => name

/-- The text of a host as it stands in front of a port: an IPv6 address is bracketed. -/
def bracketed : Host → String
  | .v6 ip => "[" ++ (Ip.v6 ip).text ++ "]"
  | host => host.text

end Host

end RelayRoute
