import RelayRoute.Proofs.AddressText

/-!
# The parts of an address

An address is written as a host, a colon and a port, and two readers are tried on it.  One knows the
socket addresses of the system, the other cuts the text at its last colon and takes whatever names a
host.

* `IsPort`, `readSigned?_eq_some_iff` — what the second reader takes for a port;
* `SocketAddress.HasHost`, `SocketAddress.read?_eq_some_iff` — the grammar of the first reader;
* `IsScoped`, `Host.read_of_isScoped` — IPv6 hosts with a scope, which are known to the first reader
  alone;
* `Address.parts_of_read?` — each text of the first reader is cut by the second into the same parts,
  and these name the same host unless it has a scope;
* `Address.ofText_parts` — so the order in which the readers are tried does not matter otherwise.
-/

namespace RelayRoute

/-! ## Ports and scopes -/

namespace Digits

theorem isDigit_of_read? {base n : Nat} {cs : List Char} (h : read? base cs = some n) :
    ∀ c ∈ cs, isDigit base c := by
  unfold read? at h
  rcases hspan : span base cs with ⟨ds, rest⟩
  obtain ⟨used, rfl, hused⟩ := eq_append_of_span hspan
  rw [hspan] at h
  cases rest with
  | nil => simpa using hused
  | cons c rest => cases ds <;> cases h

/-- A sign in front is not spelled in digits. -/
theorem read?_plus (cs : List Char) : read? 10 ('+' :: cs) = none := by
  have hplus : value? 10 '+' = none := by decide
  simp [read?, span, hplus]

end Digits

/-- A whole text is a numeral of a format without other limits if it spells a number below the
bound. -/
theorem NumeralFormat.read?_eq_whole_iff {f : NumeralFormat} (hlongest : f.longest = none)
    (hzeros : f.leadingZeros) {cs : List Char} {n : Nat} :
    f.read? cs = some (n, []) ↔ Digits.read? f.base cs = some n ∧ n < f.bound := by
  unfold read? Digits.read? accepts
  rcases Digits.span f.base cs with ⟨ds, rest⟩
  rw [hlongest, hzeros]
  cases ds with
  | nil => simp
  | cons d ds =>
      cases rest with
      | nil =>
          simp only [List.isEmpty_cons, Bool.not_false, Option.all_none, Bool.and_self,
            Bool.true_or, Bool.true_and, decide_eq_true_eq, Option.ite_none_right_eq_some,
            Option.some.injEq, Prod.mk.injEq, and_true]
          constructor
          · rintro ⟨hbound, rfl⟩
            exact ⟨rfl, hbound⟩
          · rintro ⟨rfl, hbound⟩
            exact ⟨hbound, rfl⟩
      | cons c rest => simp

/-- A text is a port: digits, with or without a plus sign in front, that spell a number of sixteen
bits.  Zeros in front of other digits do not count. -/
def IsPort (text : List Char) (port : UInt16) : Prop :=
  ∃ digits, (text = digits ∨ text = '+' :: digits) ∧ Digits.read? 10 digits = some port.toNat

/-- A number is that of a whole text if nothing is left. -/
theorem whole_eq_some_iff (front : Option (Nat × List Char)) {n : Nat} :
    (match front with
      | some (n, []) => some n
      | _ => none) = some n ↔ front = some (n, []) := by
  rcases front with _ | ⟨k, _ | ⟨c, rest⟩⟩ <;> simp

/-- What the reader of ports takes is a port. -/
theorem readSigned?_eq_some_iff {text : List Char} {port : UInt16} :
    portFormat.readSigned? text = some port.toNat ↔ IsPort text port := by
  have hwhole (digits : List Char) : portFormat.read? digits = some (port.toNat, []) ↔
      Digits.read? 10 digits = some port.toNat := by
    rw [NumeralFormat.read?_eq_whole_iff rfl rfl]
    exact and_iff_left port.toNat_lt
  have hread (digits : List Char) := (whole_eq_some_iff (portFormat.read? digits)).trans
    (hwhole digits)
  unfold NumeralFormat.readSigned? IsPort
  constructor
  · intro h
    split at h
    · next rest => exact ⟨rest, .inr rfl, (hread rest).mp h⟩
    · exact ⟨text, .inl rfl, (hread text).mp h⟩
  · rintro ⟨digits, rfl | rfl, hdigits⟩
    · split
      · next rest => simp [Digits.read?_plus] at hdigits
      · exact (hread _).mpr hdigits
    · exact (hread _).mpr hdigits

/-- The reader of ports gives numbers of sixteen bits. -/
theorem exists_port_of_readSigned? {text : List Char} {n : Nat}
    (h : portFormat.readSigned? text = some n) : ∃ port : UInt16, port.toNat = n := by
  have hbound : n < 65536 := by
    unfold NumeralFormat.readSigned? at h
    dsimp only at h
    split at h
    · next hread =>
        obtain rfl := Option.some.inj h
        exact ((NumeralFormat.read?_eq_whole_iff rfl rfl).mp hread).2
    · cases h
  exact ⟨UInt16.ofNat n, UInt16.toNat_ofNat_of_lt' hbound⟩

/-! ## Socket addresses -/

namespace SocketAddress

/-- What stands in front of the colon and the port of a socket address: an IPv4 address, or an IPv6
address in brackets, with the number of its scope behind a percent sign if it has one. -/
inductive HasHost : SocketAddress → List Char → Prop
  | v4 {ip : Ipv4} {port : UInt16} {literal : List Char} (hip : Ip.read? literal = some (.v4 ip)) :
      HasHost (.v4 ip port) literal
  | v6 {ip : Ipv6} {port : UInt16} {literal : List Char} (hip : Ip.read? literal = some (.v6 ip)) :
      HasHost (.v6 ip port 0 0) ('[' :: (literal ++ [']']))
  | zoned {ip : Ipv6} {port : UInt16} {scope : UInt32} {literal zone : List Char}
      (hip : Ip.read? literal = some (.v6 ip)) (hzone : Digits.read? 10 zone = some scope.toNat) :
      HasHost (.v6 ip port 0 scope) ('[' :: (literal ++ '%' :: (zone ++ [']'])))

/-- A port is what a text spells in digits behind a colon. -/
theorem readPort?_eq_whole_iff {cs : List Char} {port : UInt16} :
    readPort? cs = some (port, []) ↔
      ∃ digits, cs = ':' :: digits ∧ Digits.read? 10 digits = some port.toNat := by
  simp only [readPort?, Option.bind_eq_bind, Option.bind_eq_some_iff]
  constructor
  · rintro ⟨digits, hcolon, ⟨n, rest⟩, hread, hport⟩
    obtain ⟨rfl, rfl⟩ : UInt16.ofNat n = port ∧ rest = [] := by simpa using hport
    obtain ⟨hdigits, hbound⟩ := (NumeralFormat.read?_eq_whole_iff rfl rfl).mp hread
    have hn : (UInt16.ofNat n).toNat = n := UInt16.toNat_ofNat_of_lt' hbound
    exact ⟨digits, eq_cons_of_after? hcolon, by rw [hn]; exact hdigits⟩
  · rintro ⟨digits, rfl, hdigits⟩
    have hread : portFormat.read? digits = some (port.toNat, []) :=
      (NumeralFormat.read?_eq_whole_iff rfl rfl).mpr ⟨hdigits, port.toNat_lt⟩
    exact ⟨digits, by simp [after?], (port.toNat, []), hread, by simp⟩

/-- A scope is what a text spells in digits between a percent sign and the bracket.  Without a
percent sign there is none, which counts as zero. -/
theorem readScope_cases {cs rest : List Char} {scope : UInt32}
    (h : readScope cs = (scope, ']' :: rest)) :
    (scope = 0 ∧ cs = ']' :: rest) ∨
      ∃ zone, cs = '%' :: (zone ++ ']' :: rest) ∧ Digits.read? 10 zone = some scope.toNat := by
  unfold readScope at h
  split at h
  · next n rest' hscope =>
      obtain ⟨following, hpercent, hread⟩ := Option.bind_eq_some_iff.mp hscope
      obtain ⟨rfl, rfl⟩ : UInt32.ofNat n = scope ∧ rest' = ']' :: rest := by simpa using h
      obtain ⟨zone, rfl, -⟩ := scopeFormat.takes_read? hread
      have hstops : StopsAt ']' scopeFormat.read? := scopeFormat.stopsAt_read? (by decide)
      obtain ⟨hdigits, hbound⟩ :=
        (NumeralFormat.read?_eq_whole_iff rfl rfl).mp ((hstops.whole_iff _).mp hread)
      have hn : (UInt32.ofNat n).toNat = n := UInt32.toNat_ofNat_of_lt' hbound
      exact .inr ⟨zone, eq_cons_of_after? hpercent, by rw [hn]; exact hdigits⟩
  · obtain ⟨rfl, rfl⟩ : 0 = scope ∧ cs = ']' :: rest := by simpa using h
    exact .inl ⟨rfl, rfl⟩

/-- A scope is read up to the bracket. -/
theorem readScope_scoped {zone rest : List Char} {scope : UInt32}
    (h : Digits.read? 10 zone = some scope.toNat) :
    readScope ('%' :: (zone ++ ']' :: rest)) = (scope, ']' :: rest) := by
  have hstops : StopsAt ']' scopeFormat.read? := scopeFormat.stopsAt_read? (by decide)
  have hread : scopeFormat.read? (zone ++ ']' :: rest) = some (scope.toNat, ']' :: rest) :=
    (hstops.whole_iff rest).mpr
      ((NumeralFormat.read?_eq_whole_iff rfl rfl).mpr ⟨h, scope.toNat_lt⟩)
  simp [readScope, after?, hread]

/-- An IPv4 address with a port behind it. -/
theorem exists_host_of_readV4? {text : List Char} {address : SocketAddress}
    (h : readV4? text = some (address, [])) : ∃ host digits, text = host ++ ':' :: digits ∧
      HasHost address host ∧ Digits.read? 10 digits = some address.port.toNat := by
  simp only [readV4?, Option.bind_eq_bind, Option.bind_eq_some_iff] at h
  obtain ⟨⟨ip, following⟩, hfront, ⟨port, rest⟩, hport, heq⟩ := h
  obtain ⟨rfl, rfl⟩ : SocketAddress.v4 ip port = address ∧ rest = [] := by simpa using heq
  obtain ⟨digits, rfl, hdigits⟩ := readPort?_eq_whole_iff.mp hport
  obtain ⟨literal, rfl, -⟩ := Ipv4.takes_readFront? hfront
  have hstops : StopsAt ':' Ipv4.readFront? := Ipv4.stopsAt_readFront? (by decide) (by decide)
  have hip : Ip.read? literal = some (.v4 ip) :=
    Ip.read?_eq_v4_iff.mpr ((hstops.whole_iff _).mp hfront)
  exact ⟨literal, digits, rfl, .v4 hip, hdigits⟩

/-- An IPv6 address in brackets, with or without a scope, and a port behind it.  The parts are found
one after another, as the reader takes them. -/
theorem exists_host_of_readV6? {text : List Char} {address : SocketAddress}
    (h : readV6? text = some (address, [])) : ∃ host digits, text = host ++ ':' :: digits ∧
      HasHost address host ∧ Digits.read? 10 digits = some address.port.toNat := by
  simp only [readV6?, Option.bind_eq_bind, Option.bind_eq_some_iff] at h
  obtain ⟨inner, hopen, ⟨ip, following⟩, hfront, rest, hclose, ⟨port, none⟩, hport, heq⟩ := h
  obtain ⟨rfl, rfl⟩ : SocketAddress.v6 ip port 0 (readScope following).1 = address ∧ none = [] := by
    simpa using heq
  obtain ⟨digits, rfl, hdigits⟩ := readPort?_eq_whole_iff.mp hport
  obtain ⟨literal, rfl, -⟩ := Ipv6.takes_readFront? hfront
  obtain rfl := eq_cons_of_after? hopen
  have hscope : readScope following = ((readScope following).1, ']' :: ':' :: digits) := by
    rw [← eq_cons_of_after? hclose]
  rcases readScope_cases hscope with ⟨hzero, rfl⟩ | ⟨zone, rfl, hzone⟩
  · have hstops : StopsAt ']' Ipv6.readFront? :=
      Ipv6.stopsAt_readFront? (by decide) (by decide) (by decide) (by decide)
    have hip : Ip.read? literal = some (.v6 ip) :=
      Ip.read?_eq_v6_iff.mpr ((hstops.whole_iff _).mp hfront)
    refine ⟨'[' :: (literal ++ [']']), digits, by simp, ?_, hdigits⟩
    rw [hzero]
    exact .v6 hip
  · have hstops : StopsAt '%' Ipv6.readFront? :=
      Ipv6.stopsAt_readFront? (by decide) (by decide) (by decide) (by decide)
    have hip : Ip.read? literal = some (.v6 ip) :=
      Ip.read?_eq_v6_iff.mpr ((hstops.whole_iff _).mp hfront)
    exact ⟨'[' :: (literal ++ '%' :: (zone ++ [']'])), digits, by simp, .zoned hip hzone, hdigits⟩

/-- A text that starts with a bracket is left to the reader of IPv6 hosts. -/
theorem read?_bracket {inner : List Char} {address : SocketAddress}
    (h : readV6? ('[' :: inner) = some (address, [])) : read? ('[' :: inner) = some address := by
  have hoctet : Ipv4.readOctet? ('[' :: inner) = none := rfl
  have hv4 : readV4? ('[' :: inner) = none := by simp [readV4?, Ipv4.readFront?, hoctet]
  simp [read?, hv4, h]

/-- A host of a socket address is read with a port in digits behind it. -/
theorem HasHost.read? {address : SocketAddress} {host digits : List Char}
    (h : HasHost address host) (hdigits : Digits.read? 10 digits = some address.port.toNat) :
    SocketAddress.read? (host ++ ':' :: digits) = some address := by
  have hport : readPort? (':' :: digits) = some (address.port, []) :=
    readPort?_eq_whole_iff.mpr ⟨digits, rfl, hdigits⟩
  cases h with
  | v4 hip =>
      have hstops : StopsAt ':' Ipv4.readFront? := Ipv4.stopsAt_readFront? (by decide) (by decide)
      have hfront := (hstops.whole_iff digits).mpr (Ip.read?_eq_v4_iff.mp hip)
      simp [SocketAddress.read?, readV4?, hfront, hport, port]
  | @v6 ip port literal hip =>
      have hstops : StopsAt ']' Ipv6.readFront? :=
        Ipv6.stopsAt_readFront? (by decide) (by decide) (by decide) (by decide)
      have hfront := (hstops.whole_iff (':' :: digits)).mpr (Ip.read?_eq_v6_iff.mp hip)
      have hscope : readScope (']' :: ':' :: digits) = (0, ']' :: ':' :: digits) := rfl
      have hread : readV6? ('[' :: (literal ++ ']' :: ':' :: digits)) =
          some (.v6 ip port 0 0, []) := by
        simp only [SocketAddress.port] at hport
        simp [readV6?, after?, hfront, hscope, hport]
      simpa using read?_bracket hread
  | @zoned ip port scope literal zone hip hzone =>
      have hstops : StopsAt '%' Ipv6.readFront? :=
        Ipv6.stopsAt_readFront? (by decide) (by decide) (by decide) (by decide)
      have hfront := (hstops.whole_iff (zone ++ ']' :: ':' :: digits)).mpr
        (Ip.read?_eq_v6_iff.mp hip)
      have hread : readV6? ('[' :: (literal ++ '%' :: (zone ++ ']' :: ':' :: digits))) =
          some (.v6 ip port 0 scope, []) := by
        simp only [SocketAddress.port] at hport
        simp [readV6?, after?, hfront, readScope_scoped hzone, hport]
      simpa using read?_bracket hread

/-- **The grammar of socket addresses.**  A text is one if it is the host of the address, a colon
and the port in digits. -/
theorem read?_eq_some_iff {text : List Char} {address : SocketAddress} :
    read? text = some address ↔ ∃ host digits, text = host ++ ':' :: digits ∧
      HasHost address host ∧ Digits.read? 10 digits = some address.port.toNat := by
  constructor
  · intro h
    have hfront : (readV4? text).or (readV6? text) = some (address, []) := by
      unfold read? at h
      split at h
      · next found hfound => rw [hfound, Option.some.inj h]
      · cases h
    rcases Option.or_eq_some_iff.mp hfront with hv4 | ⟨-, hv6⟩
    · exact exists_host_of_readV4? hv4
    · exact exists_host_of_readV6? hv6
  · rintro ⟨host, digits, rfl, hhost, hdigits⟩
    exact hhost.read? hdigits

end SocketAddress

/-! ## Hosts in front of ports -/

/-- A text is an IPv6 address in brackets with the number of a scope behind a percent sign. -/
def IsScoped (host : List Char) (ip : Ipv6) : Prop :=
  ∃ (literal zone : List Char) (scope : UInt32), host = '[' :: (literal ++ '%' :: (zone ++ [']'])) ∧
    Ip.read? literal = some (.v6 ip) ∧ Digits.read? 10 zone = some scope.toNat

namespace Host

/-- No host has a scope: the percent sign belongs to no IP address and to no domain. -/
theorem read_of_isScoped {host : List Char} {ip : Ipv6} (h : IsScoped host ip) :
    ∃ cause, read host = .error cause := by
  obtain ⟨literal, zone, scope, rfl, -, -⟩ := h
  have hstrip : stripBrackets ('[' :: (literal ++ '%' :: (zone ++ [']']))) =
      literal ++ '%' :: zone := by
    have hinner := stripBrackets_bracketed (literal ++ '%' :: zone)
    simpa using hinner
  have hip : Ip.read? (literal ++ '%' :: zone) = none := by
    have hv4 : StopsAt '%' Ipv4.readFront? := Ipv4.stopsAt_readFront? (by decide) (by decide)
    have hv6 : StopsAt '%' Ipv6.readFront? :=
      Ipv6.stopsAt_readFront? (by decide) (by decide) (by decide) (by decide)
    cases hread : Ip.read? (literal ++ '%' :: zone) with
    | none => rfl
    | some found =>
        cases found with
        | v4 inner => exact absurd (Ip.read?_eq_v4_iff.mp hread) hv4.ne_whole
        | v6 same => exact absurd (Ip.read?_eq_v6_iff.mp hread) hv6.ne_whole
  have hname : Name.Domain.ofText? (literal ++ '%' :: zone) = none := by
    have hrefused : Name.mapChar? '%' = none := by decide
    exact Name.Domain.ofText?_of_refused (by simp) hrefused
  refine ⟨⟨String.ofList (literal ++ '%' :: zone)⟩, ?_⟩
  unfold read
  simp only [hstrip, hip, hname]

/-- The host of a socket address names that host, unless it has a scope. -/
theorem read_of_hasHost {address : SocketAddress} {host : List Char} (h : address.HasHost host) :
    read host = .ok (ofIp address.ip) ∨ ∃ ip, IsScoped host ip ∧ address.ip = .v6 ip := by
  cases h with
  | @v4 ip port literal hip => exact .inl (read_of_literal hip (stripBrackets_literal hip))
  | @v6 ip port literal hip => exact .inl (read_of_literal hip (stripBrackets_bracketed literal))
  | @zoned ip port scope literal zone hip hzone =>
      right
      exact ⟨ip, ⟨literal, zone, scope, rfl, hip, hzone⟩, rfl⟩

end Host

theorem IsPort.colon_not_mem {text : List Char} {port : UInt16} (h : IsPort text port) :
    ':' ∉ text := by
  obtain ⟨digits, htext, hdigits⟩ := h
  have hdigit : ':' ∉ digits := by
    intro hcolon
    exact absurd (Digits.isDigit_of_read? hdigits ':' hcolon) (by decide)
  rcases htext with rfl | rfl
  · exact hdigit
  · simp [hdigit]

theorem IsPort.unique {text : List Char} {port other : UInt16} (h : IsPort text port)
    (hother : IsPort text other) : port = other := by
  have hsame := (readSigned?_eq_some_iff.mpr h).symm.trans (readSigned?_eq_some_iff.mpr hother)
  exact UInt16.toNat_inj.mp (Option.some.inj hsame)

/-- What stands behind the last colon of a socket address is its port, and what stands in front is
its host.  There may be more colons in the host, but none in the port. -/
theorem SocketAddress.read?_append_iff {host port : List Char} (hport : ':' ∉ port)
    {address : SocketAddress} : read? (host ++ ':' :: port) = some address ↔
      HasHost address host ∧ Digits.read? 10 port = some address.port.toNat := by
  rw [read?_eq_some_iff]
  constructor
  · rintro ⟨host', digits, htext, hhost, hdigits⟩
    have hcolon : ':' ∉ digits := IsPort.colon_not_mem ⟨digits, .inl rfl, hdigits⟩
    have hparts := Text.splitLast?_append host hport
    rw [htext, Text.splitLast?_append host' hcolon] at hparts
    obtain ⟨rfl, rfl⟩ : host' = host ∧ digits = port := by simpa using hparts
    exact ⟨hhost, hdigits⟩
  · rintro ⟨hhost, hdigits⟩
    exact ⟨host, port, rfl, hhost, hdigits⟩

namespace Address

/-- A text with a port behind its last colon is read by its parts. -/
theorem readParts_of_isPort (host : List Char) {text : List Char} {port : UInt16}
    (h : IsPort text port) :
    readParts (host ++ ':' :: text) = (Host.read host).map (⟨·, port⟩) := by
  rw [readParts, Text.splitLast?_append host h.colon_not_mem]
  simp [readSigned?_eq_some_iff.mpr h]

/-- A text with no port behind its last colon is refused as a whole. -/
theorem readParts_of_not_isPort (host : List Char) {text : List Char} (hcolon : ':' ∉ text)
    (h : ∀ port, ¬ IsPort text port) :
    readParts (host ++ ':' :: text) = .error ⟨String.ofList (host ++ ':' :: text)⟩ := by
  rw [readParts, Text.splitLast?_append host hcolon]
  cases hread : portFormat.readSigned? text with
  | none => simp [hread]
  | some n =>
      obtain ⟨port, rfl⟩ := exists_port_of_readSigned? hread
      exact absurd (readSigned?_eq_some_iff.mp hread) (h port)

/-- A socket address has the port that stands behind the last colon, and its host names the same
host without the port, unless it has a scope. -/
theorem parts_of_read? {host text : List Char} {port : UInt16} {address : SocketAddress}
    (hport : IsPort text port)
    (h : SocketAddress.read? (host ++ ':' :: text) = some address) :
    address.port = port ∧ (Host.read host = .ok (Host.ofIp address.ip) ∨
      ∃ ip, IsScoped host ip ∧ address.ip = .v6 ip) := by
  obtain ⟨hhost, hdigits⟩ := (SocketAddress.read?_append_iff hport.colon_not_mem).mp h
  have hsame : IsPort text address.port := ⟨text, .inl rfl, hdigits⟩
  exact ⟨hsame.unique hport, Host.read_of_hasHost hhost⟩

/-- A host with a scope makes a socket address with a port that has no sign. -/
theorem read?_of_isScoped {host text : List Char} {ip : Ipv6} {port : UInt16}
    (hscoped : IsScoped host ip) (hport : IsPort text port) :
    ((SocketAddress.read? (host ++ ':' :: text)).isSome ↔
        Digits.read? 10 text = some port.toNat) ∧
      ((SocketAddress.read? (host ++ ':' :: text)).isSome →
        read (host ++ ':' :: text) = .ok ⟨Host.ofIp (.v6 ip), port⟩) := by
  obtain ⟨literal, zone, scope, rfl, hip, hzone⟩ := hscoped
  have hhost : SocketAddress.HasHost (.v6 ip port 0 scope)
      ('[' :: (literal ++ '%' :: (zone ++ [']']))) := .zoned hip hzone
  have haccepts (hdigits : Digits.read? 10 text = some port.toNat) := hhost.read? hdigits
  have hiff : (SocketAddress.read? ('[' :: (literal ++ '%' :: (zone ++ [']'])) ++
      ':' :: text)).isSome ↔ Digits.read? 10 text = some port.toNat := by
    constructor
    · intro hsome
      obtain ⟨address, haddress⟩ := Option.isSome_iff_exists.mp hsome
      rw [← (parts_of_read? hport haddress).1]
      exact ((SocketAddress.read?_append_iff hport.colon_not_mem).mp haddress).2
    · intro hdigits
      rw [haccepts hdigits]
      rfl
  refine ⟨hiff, fun hsome => ?_⟩
  rw [read, haccepts (hiff.mp hsome)]
  rfl

/-- **Addresses are read by their parts.**  A text without a colon, or without a port behind its
last colon, is refused as a whole.  Any other text is what its host and its port name, with the same
fault if they name nothing, although a socket address is looked for first.  The exception are socket
addresses whose host has a scope: without a sign in front of the port they are the IPv6 address, or
the IPv4 address it stands for, while a host with a scope alone is none.  So no socket address is
read as another address than its parts. -/
theorem ofText_parts (text : String) :
    (':' ∉ text.toList → ofText text = .error ⟨text⟩) ∧
    ∀ host port : String, text = host ++ ":" ++ port → ':' ∉ port.toList →
      ((∀ n, ¬ IsPort port.toList n) → ofText text = .error ⟨text⟩) ∧
      ∀ n, IsPort port.toList n →
        (((SocketAddress.ofText? text).isSome → ∀ ip, ¬ IsScoped host.toList ip) →
          ofText text = ofHost host n) ∧
        (∀ ip, IsScoped host.toList ip →
          ((SocketAddress.ofText? text).isSome ↔
            Digits.read? 10 port.toList = some n.toNat) ∧
          ((SocketAddress.ofText? text).isSome → ofText text = .ok ⟨Host.ofIp (.v6 ip), n⟩) ∧
          ∃ cause, ofHost host n = .error cause) ∧
        ∀ address other, SocketAddress.ofText? text = some address → ofHost host n = .ok other →
          ofSocketAddress address = other := by
  constructor
  · intro hcolon
    have hnone : SocketAddress.read? text.toList = none := by
      by_contra hsome
      obtain ⟨address, haddress⟩ := Option.ne_none_iff_exists'.mp hsome
      obtain ⟨host, digits, htext, -⟩ := SocketAddress.read?_eq_some_iff.mp haddress
      rw [htext] at hcolon
      simp at hcolon
    rw [ofText, read, hnone]
    simp [readParts, Text.splitLast?_of_not_mem hcolon]
  intro host port htext hcolon
  have hlist : text.toList = host.toList ++ ':' :: port.toList := by simp [htext]
  have hwhole : String.ofList (host.toList ++ ':' :: port.toList) = text := by
    rw [← hlist, String.ofList_toList]
  unfold ofText SocketAddress.ofText? ofHost Host.ofText
  rw [hlist]
  refine ⟨fun hnone => ?_, fun n hport => ⟨fun hunscoped => ?_, fun ip hscoped => ?_, ?_⟩⟩
  · have hrefused : SocketAddress.read? (host.toList ++ ':' :: port.toList) = none := by
      by_contra hsome
      obtain ⟨address, haddress⟩ := Option.ne_none_iff_exists'.mp hsome
      obtain ⟨-, hdigits⟩ := (SocketAddress.read?_append_iff hcolon).mp haddress
      exact hnone address.port ⟨port.toList, .inl rfl, hdigits⟩
    rw [read, hrefused]
    dsimp only
    rw [readParts_of_not_isPort host.toList hcolon hnone, hwhole]
  · cases haddress : SocketAddress.read? (host.toList ++ ':' :: port.toList) with
    | none =>
        rw [read, haddress]
        exact readParts_of_isPort host.toList hport
    | some address =>
        rw [haddress] at hunscoped
        obtain ⟨rfl, hhost⟩ := parts_of_read? hport haddress
        rcases hhost with hhost | ⟨ip, hscoped, -⟩
        · rw [read, haddress, hhost]
          rfl
        · exact absurd hscoped (hunscoped rfl ip)
  · obtain ⟨hiff, hread⟩ := read?_of_isScoped hscoped hport
    obtain ⟨cause, hcause⟩ := Host.read_of_isScoped hscoped
    exact ⟨hiff, hread, cause, by rw [hcause]; rfl⟩
  · intro address other haddress hother
    obtain ⟨rfl, hhost⟩ := parts_of_read? hport haddress
    rcases hhost with hhost | ⟨ip, hscoped, -⟩
    · rw [hhost] at hother
      exact Except.ok.inj hother
    · obtain ⟨cause, hcause⟩ := Host.read_of_isScoped hscoped
      rw [hcause] at hother
      cases hother

/-- An IPv6 address with a scope that stands for an IPv4 one, in front of a port with and without a
sign. -/
theorem ofText_scoped :
    ofText "[::ffff:1.2.3.4%7]:0443" = .ok ⟨.v4 ⟨1, 2, 3, 4⟩, 443⟩ ∧
      ofText "[::ffff:1.2.3.4%7]:+443" = ofHost "[::ffff:1.2.3.4%7]" 443 := by
  let mapped : Ipv6 := ⟨[0, 0, 0, 0, 0, 0xffff, 0x102, 0x304], rfl⟩
  have hscoped : IsScoped "[::ffff:1.2.3.4%7]".toList mapped :=
    ⟨"::ffff:1.2.3.4".toList, "7".toList, 7, by decide, by decide, by decide⟩
  constructor
  · obtain ⟨-, hparts⟩ := ofText_parts "[::ffff:1.2.3.4%7]:0443"
    have hport : IsPort "0443".toList 443 := ⟨"0443".toList, .inl rfl, by decide⟩
    obtain ⟨-, hnamed⟩ := hparts "[::ffff:1.2.3.4%7]" "0443" (by decide) (by decide)
    obtain ⟨haccepted, hread, -⟩ := (hnamed 443 hport).2.1 mapped hscoped
    exact hread (haccepted.mpr (by decide))
  · obtain ⟨-, hparts⟩ := ofText_parts "[::ffff:1.2.3.4%7]:+443"
    have hport : IsPort "+443".toList 443 := ⟨"443".toList, .inr rfl, by decide⟩
    obtain ⟨-, hnamed⟩ := hparts "[::ffff:1.2.3.4%7]" "+443" (by decide) (by decide)
    refine (hnamed 443 hport).1 fun haccepted => ?_
    have hdigits := ((hnamed 443 hport).2.1 mapped hscoped).1.mp haccepted
    exact absurd hdigits (by decide)

end Address

end RelayRoute
