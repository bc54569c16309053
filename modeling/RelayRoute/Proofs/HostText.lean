import RelayRoute.Address
import RelayRoute.Proofs.DomainName

/-!
# Domains are read again

The domain that a text names is printed as it is, and should be read as itself, alone and with a
port behind it (`Host.IsSettled`).  It is, when it is not the text of an IP address and no label of
it was disguised.  Both can be, since IP addresses are looked for before a text is mapped, and
labels are not looked at again after they were read.

* `Host.read_eq_domain_iff`, `Host.read_cases` — when a text names a domain, and what it names
  otherwise;
* `SocketAddress.read?_of_plain` — a port behind a domain does not make a socket address of it;
* `Host.isSettled_of_again` — what it takes for a domain to be settled;
* `Host.ofText_domain` — when the domain that a text names is; texts in ASCII without Punycode
  always name such domains;
* `Host.unsettled_domains` — two domains that are not.
-/

namespace RelayRoute

open Name

/-- A number that is printed is read again as a whole text, if it fits the format. -/
theorem NumeralFormat.readSigned?_write {f : NumeralFormat} {n : Nat} (hpos : 1 < f.base)
    (hbase : f.base ≤ 16) (hlongest : ∀ k ∈ f.longest, 0 < k ∧ n < Nat.pow f.base k)
    (hbound : n < f.bound) : f.readSigned? (Digits.write f.base n) = some n := by
  have hread : f.read? (Digits.write f.base n ++ []) = some (n, []) :=
    read?_write hpos hbase hlongest hbound (by simp)
  rw [List.append_nil] at hread
  unfold readSigned?
  split
  · next rest hplus =>
      have hmem : '+' ∈ Digits.write f.base n := by
        rw [hplus]
        exact List.mem_cons_self
      have hdigit := Digits.isDigit_of_mem_write hpos hbase hmem
      simp [Digits.isDigit, Digits.value?] at hdigit
  · dsimp only
    rw [hread]

/-- A port is read as it was printed. -/
theorem readSigned?_port (port : UInt16) :
    portFormat.readSigned? (Digits.write 10 port.toNat) = some port.toNat :=
  NumeralFormat.readSigned?_write (f := portFormat) (by decide) (by decide) nofun port.toNat_lt

namespace Host

theorem ofIp_ne_domain (ip : Ip) (name : String) : ofIp ip ≠ .domain name := by
  unfold ofIp
  cases ip.canonical <;> simp

/-- A text names a domain when it is no IP literal and has an ASCII form. -/
theorem read_eq_domain_iff {text : List Char} {name : String} :
    read text = .ok (.domain name) ↔
      Ip.read? (stripBrackets text) = none ∧
        Domain.ofText? (stripBrackets text) = some name.toList := by
  unfold read
  dsimp only
  cases hip : Ip.read? (stripBrackets text) with
  | some ip => simp [ofIp_ne_domain]
  | none =>
      cases hname : Domain.ofText? (stripBrackets text) with
      | none => simp
      | some found =>
          have hsame : String.ofList found = name ↔ found = name.toList := by
            constructor
            · rintro rfl
              simp
            · rintro rfl
              simp
          simpa using hsame

/-- A text that names a host is an IP literal, or else it has an ASCII form and names the domain. -/
theorem read_cases {text : List Char} {host : Host} (h : read text = .ok host) :
    (∃ ip, Ip.read? (stripBrackets text) = some ip ∧ host = ofIp ip) ∨
      Ip.read? (stripBrackets text) = none ∧
        ∃ name, Domain.ofText? (stripBrackets text) = some name ∧
          host = .domain (String.ofList name) := by
  unfold read at h
  dsimp only at h
  cases hip : Ip.read? (stripBrackets text) with
  | some ip =>
      rw [hip] at h
      exact .inl ⟨ip, rfl, (Except.ok.inj h).symm⟩
  | none =>
      rw [hip] at h
      cases hname : Domain.ofText? (stripBrackets text) with
      | some name =>
          rw [hname] at h
          exact .inr ⟨rfl, name, rfl, (Except.ok.inj h).symm⟩
      | none =>
          rw [hname] at h
          cases h

/-- There are no brackets around a text of characters that are kept. -/
theorem stripBrackets_of_plain {text : List Char} (h : ∀ c ∈ text, IsPlain c) :
    stripBrackets text = text := by
  unfold stripBrackets
  split
  · next rest =>
      have hbracket := (h '[' List.mem_cons_self).2
      exact absurd hbracket (by decide)
  · rfl

/-- A domain that is read as itself, alone and with a port behind it. -/
structure IsSettled (name : String) : Prop where
  host : ofText name = .ok (.domain name)
  address (port : UInt16) :
    Address.ofText (Address.text ⟨.domain name, port⟩) = .ok ⟨.domain name, port⟩

end Host

/-- A text of characters that are kept has no colon. -/
theorem Name.colon_not_mem_of_plain {text : List Char} (h : ∀ c ∈ text, IsPlain c) :
    ':' ∉ text := by
  intro hcolon
  exact absurd (h ':' hcolon).2 (by decide)

/-- A port behind a text that is no IP address makes no socket address of it.  The reader of IPv4
addresses would have to take the whole text to get to the colon, and the reader of IPv6 addresses
starts at a bracket. -/
theorem SocketAddress.read?_of_plain {text port : List Char} (h : ∀ c ∈ text, IsPlain c)
    (hip : Ip.read? text = none) : read? (text ++ ':' :: port) = none := by
  have hcolon := colon_not_mem_of_plain h
  have hv4 : readV4? (text ++ ':' :: port) = none := by
    have hstops : StopsAt ':' Ipv4.readFront? := Ipv4.stopsAt_readFront? (by decide) (by decide)
    rw [readV4?, hstops text port]
    cases hfront : Ipv4.readFront? text with
    | none => rfl
    | some front =>
        obtain ⟨ip, rest⟩ := front
        obtain ⟨used, hused, -⟩ := Ipv4.takes_readFront? hfront
        cases rest with
        | nil => simp [Ip.read?, Ip.readFront?, hfront] at hip
        | cons c rest =>
            have hc : c ≠ ':' := by
              rintro rfl
              rw [hused] at hcolon
              simp at hcolon
            simp [readPort?, after?, hc]
  have hv6 : readV6? (text ++ ':' :: port) = none := by
    have hbracket : after? '[' (text ++ ':' :: port) = none := by
      cases text with
      | nil => rfl
      | cons c cs =>
          have hc : c ≠ '[' := by
            rintro rfl
            exact absurd (h '[' List.mem_cons_self).2 (by decide)
          simp [after?, hc]
    simp [readV6?, hbracket]
  rw [read?, hv4, hv6]
  rfl

namespace Host

/-- A domain is settled if it is in characters that are kept, no IP address, and its own ASCII form.
With a port behind it, it is cut at the colon, since no such character is one. -/
theorem isSettled_of_again {name : String} (hplain : ∀ c ∈ name.toList, IsPlain c)
    (hip : Ip.ofText? name = none) (hagain : Domain.ofText? name.toList = some name.toList) :
    IsSettled name := by
  have hhost : read name.toList = .ok (.domain name) := by
    rw [read_eq_domain_iff, stripBrackets_of_plain hplain]
    exact ⟨hip, hagain⟩
  refine ⟨hhost, fun port => ?_⟩
  have htext : (Address.text ⟨.domain name, port⟩).toList =
      name.toList ++ ':' :: Digits.write 10 port.toNat := by
    simp [Address.text, bracketed, text, Digits.decimal]
  have hdigits : ':' ∉ Digits.write 10 port.toNat := by
    intro hcolon
    have hdigit := Digits.isDigit_of_mem_write (by decide) (by decide) hcolon
    exact absurd hdigit (by decide)
  rw [Address.ofText, htext, Address.read, SocketAddress.read?_of_plain hplain hip]
  dsimp only
  rw [Address.readParts, Text.splitLast?_append name.toList hdigits]
  simp [readSigned?_port, hhost, Except.map]

/-- **Domains are read again.**  A domain that a text names is settled when it is no text of an IP
address and no label of it was disguised.  That of a text in ASCII without Punycode always is: if it
were the text of an IPv4 address, the digits and dots of it would be what they were before they were
mapped.  A domain that is the text of an IP address is read as that address. -/
theorem ofText_domain {text name : String} (h : ofText text = .ok (.domain name)) :
    (∀ ip, Ip.ofText? name = some ip → ofText name = .ok (ofIp ip)) ∧
    (Ip.ofText? name = none → Domain.Undisguised (stripBrackets text.toList) → IsSettled name) ∧
    (Domain.Unencoded (stripBrackets text.toList) → IsSettled name) := by
  obtain ⟨hliteral, hname⟩ := read_eq_domain_iff.mp h
  obtain ⟨hplain, hagain⟩ := Domain.ofText?_again hname
  refine ⟨?_, ?_, ?_⟩
  · intro ip hip
    have hip : Ip.read? name.toList = some ip := hip
    rw [ofText, read, stripBrackets_of_plain hplain, hip]
  · exact fun hip hundisguised => isSettled_of_again hplain hip (hagain hundisguised)
  · intro hunencoded
    obtain ⟨labels, hlabels, -, -, hwrite⟩ := Domain.ofText?_eq_some_iff.mp hname
    obtain ⟨hmapped, hundisguised⟩ := Domain.labels?_of_unencoded hunencoded hlabels
    have hip : Ip.read? name.toList = none := by
      by_contra hsome
      obtain ⟨ip, hip⟩ := Option.ne_none_iff_exists'.mp hsome
      obtain ⟨inner, hfront⟩ := Ip.readFront?_of_read? hip (colon_not_mem_of_plain hplain)
      obtain ⟨used, hused, hdotted⟩ := Ipv4.takes_readFront? hfront
      rw [List.append_nil] at hused
      rw [hwrite] at hmapped
      have hsame := (Domain.map?_of_ascii hunencoded.1 hmapped).2 (hused ▸ hdotted)
      rw [hsame, hliteral] at hip
      cases hip
    refine isSettled_of_again hplain hip (hagain fun labels' hlabels' => ?_)
    obtain rfl : labels = labels' := by simpa [hlabels] using hlabels'
    exact hundisguised

/-- Domains written in Punycode and in capitals are settled. -/
theorem settled_domains :
    ofText "xn--abc-.Example" = .ok (.domain "abc.example") ∧ IsSettled "abc.example" ∧
      ofText "[Example.ORG]" = .ok (.domain "example.org") ∧ IsSettled "example.org" := by
  have hencoded : ofText "xn--abc-.Example" = .ok (.domain "abc.example") :=
    read_eq_domain_iff.mpr ⟨by decide +kernel, by decide +kernel⟩
  have hbracketed : ofText "[Example.ORG]" = .ok (.domain "example.org") :=
    read_eq_domain_iff.mpr ⟨by decide +kernel, by decide +kernel⟩
  have hlabels : Domain.labels? (stripBrackets "xn--abc-.Example".toList) =
      some ["abc".toList, "example".toList] := by decide +kernel
  have hmapped : Domain.map? (stripBrackets "[Example.ORG]".toList) =
      some "example.org".toList := by decide +kernel
  have hascii : (stripBrackets "[Example.ORG]".toList).all Punycode.isBasic := by decide
  refine ⟨hencoded, ?_, hbracketed, ?_⟩
  · refine (ofText_domain hencoded).2.1 (by decide +kernel) fun labels hsome => ?_
    obtain rfl := Option.some.inj (hlabels.symm.trans hsome)
    decide +kernel
  · refine (ofText_domain hbracketed).2.2 ⟨?_, fun mapped hsome => ?_⟩
    · simpa only [List.all_eq_true, Punycode.isBasic, decide_eq_true_eq] using hascii
    · obtain rfl := Option.some.inj (hmapped.symm.trans hsome)
      decide +kernel

/-- Domains that are not settled: one is the text of an IP address, and one was made of a label that
was disguised. -/
theorem unsettled_domains :
    ofText "xn--1-.2.3.4" = .ok (.domain "1.2.3.4") ∧ ofText "1.2.3.4" = .ok (.v4 ⟨1, 2, 3, 4⟩) ∧
      ofText "xn--xn--foo--" = .ok (.domain "xn--foo-") ∧
      ofText "xn--foo-" = .ok (.domain "foo") := by
  refine ⟨?_, rfl, ?_, ?_⟩
  · exact read_eq_domain_iff.mpr ⟨by decide +kernel, by decide +kernel⟩
  · exact read_eq_domain_iff.mpr ⟨by decide +kernel, by decide +kernel⟩
  · exact read_eq_domain_iff.mpr ⟨by decide +kernel, by decide +kernel⟩

end Host

end RelayRoute
