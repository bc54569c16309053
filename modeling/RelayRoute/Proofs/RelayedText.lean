import RelayRoute.Proofs.AddressText
import RelayRoute.Proofs.Requests

/-!
# What proxies read

A proxy writes the text of the target it is asked for into its own protocol, where a space, a line
end or a slash would be taken for something else.

* `Name.IsHostName` — a host name in the letter-digit-hyphen form; `Name.isHostName_of_ofText?`
  shows that every domain that a text names is one;
* `IsInert` — the characters that a proxy cannot take for something else;
* `Host.IsRelayable`, `Address.IsRelayable` — what a target consists of: a host name, a dotted IPv4
  address or a bracketed IPv6 address, then a colon and a port, all of it inert;
* `Tunnel.isRelayable_of_aim` — whatever host a caller names, every address that an attempt finds is
  relayable;
* `Tunnel.relays_inert` — so are the destination of a tunnel and every target that its last proxy is
  asked for, by what `Reachable.asksFor` says of the requests of a run.
-/

namespace RelayRoute

namespace Name

/-! ## Host names -/

/-- The characters of a label: small letters, digits and the hyphen. -/
def IsNameChar (c : Char) : Prop :=
  ('a' ≤ c ∧ c ≤ 'z') ∨ ('0' ≤ c ∧ c ≤ '9') ∨ c = '-'

/-- A label of a host name. -/
structure IsLabel (label : List Char) : Prop where
  length_pos : 1 ≤ label.length
  length_le : label.length ≤ 63
  chars : ∀ c ∈ label, IsNameChar c

/-- A host name of labels with dots between them, with or without one more dot at its end. -/
structure IsHostName (name : List Char) : Prop where
  parts : ∃ body, (name = body ∨ name = body ++ ['.']) ∧ 1 ≤ body.length ∧ body.length ≤ 253 ∧
    ∀ label ∈ Text.split '.' body, IsLabel label

/-- A character that is kept may stand in a label or is a dot. -/
theorem isNameChar_of_isPlain {c : Char} (h : IsPlain c) : IsNameChar c ∨ c = '.' := by
  have hkept : ∀ n : Fin 128, mapAscii? (Char.ofNat n) = some [Char.ofNat n] →
      (('a' ≤ Char.ofNat n ∧ Char.ofNat n ≤ 'z') ∨ ('0' ≤ Char.ofNat n ∧ Char.ofNat n ≤ '9') ∨
        Char.ofNat n = '-') ∨ Char.ofNat n = '.' := by
    decide
  have hc := hkept ⟨c.toNat, h.1⟩
  simp only [Char.ofNat_toNat] at hc
  exact hc (by simpa [mapChar?, h.1] using h.2)

/-- A character of a host name may stand in a label or is a dot. -/
theorem IsHostName.chars {name : List Char} (h : IsHostName name) :
    ∀ c ∈ name, IsNameChar c ∨ c = '.' := by
  obtain ⟨body, hname, -, -, hlabels⟩ := h
  have hbody : ∀ c ∈ body, IsNameChar c ∨ c = '.' := by
    intro c hc
    rw [← Text.join_split '.' body] at hc
    rcases Text.eq_or_mem_of_mem_join hc with hdot | ⟨label, hlabel, hc⟩
    · exact .inr hdot
    · exact .inl ((hlabels label hlabel).chars c hc)
  intro c hc
  rcases hname with rfl | rfl
  · exact hbody c hc
  · rcases List.mem_append.mp hc with hc | hc
    · exact hbody c hc
    · exact .inr (List.mem_singleton.mp hc)

/-- A text with a dot at its end is what stands in front of the dot, with it; any other text is
itself. -/
theorem eq_dropRoot (name : List Char) :
    name = Domain.dropRoot name ∨ name = Domain.dropRoot name ++ ['.'] := by
  unfold Domain.dropRoot
  split
  · next hlast =>
      obtain ⟨body, rfl⟩ := List.getLast?_eq_some_iff.mp hlast
      exact .inr (by rw [List.dropLast_concat])
  · exact .inl rfl

/-- The ASCII form of a text is a host name: its labels are checked one by one when it is made.  It
is not empty, since an empty name has an empty label, which does not fit. -/
theorem isHostName_of_ofText? {text name : List Char} (h : Domain.ofText? text = some name) :
    IsHostName name := by
  have hplain := (Domain.ofText?_again h).1
  obtain ⟨labels, -, -, hfits, hname⟩ := Domain.ofText?_eq_some_iff.mp h
  rw [hname] at hfits
  simp only [Domain.fits, Bool.and_eq_true, decide_eq_true_eq, List.all_eq_true] at hfits
  obtain ⟨hlength, hlabels⟩ := hfits
  have hmem : ∀ c ∈ Domain.dropRoot name, c ∈ name := by
    intro c hc
    rcases eq_dropRoot name with hname | hname
    · rwa [hname]
    · rw [hname]
      exact List.mem_append_left _ hc
  refine ⟨Domain.dropRoot name, eq_dropRoot name, ?_, hlength, ?_⟩
  · by_contra hempty
    have hnil : Domain.dropRoot name = [] := List.length_eq_zero_iff.mp (by omega)
    have hlabel := hlabels [] (by simp [hnil, Text.split])
    simp at hlabel
  · intro label hlabel
    refine ⟨(hlabels label hlabel).1, (hlabels label hlabel).2, fun c hc => ?_⟩
    have hc' : c ∈ Domain.dropRoot name := by
      rw [← Text.join_split '.' (Domain.dropRoot name)]
      exact Text.mem_join_of_mem '.' hlabel hc
    rcases isNameChar_of_isPlain (hplain c (hmem c hc')) with hchar | rfl
    · exact hchar
    · exact absurd hc (Text.not_mem_of_mem_split hlabel)

end Name

open Name

/-! ## Texts of hosts and addresses -/

/-- Characters that a proxy cannot take for something else: visible ASCII, but no slash and no at
sign. -/
structure IsInert (c : Char) : Prop where
  visible : 32 < c.toNat ∧ c.toNat < 127
  ne_slash : c ≠ '/'
  ne_at : c ≠ '@'

/-- The text of a host in front of a port. -/
inductive Host.IsRelayable : List Char → Prop
  | name {name : List Char} (h : IsHostName name) : IsRelayable name
  | dotted (a b c d : UInt8) :
    IsRelayable (Text.join '.' ([a, b, c, d].map fun octet => Digits.write 10 octet.toNat))
  /-- The address stands for no IPv4 address. -/
  | bracketed (ip : Ipv6) (h : ip.unmap? = none) : IsRelayable ('[' :: (ip.print ++ [']']))

/-- What a proxy can be asked for: a text of a host, a colon and a port, and nothing that is not
inert. -/
structure Address.IsRelayable (address : Address) : Prop where
  text_eq : ∃ host, Host.IsRelayable host ∧
    address.text.toList = host ++ ':' :: Digits.write 10 address.port.toNat
  inert : ∀ c ∈ address.text.toList, IsInert c

/-- Digits, letters and most of what stands between them in ASCII are inert. -/
theorem isInert_of_bounds {c : Char} (hlow : 48 ≤ c.toNat) (hhigh : c.toNat ≤ 122)
    (hat : c ≠ '@') : IsInert c := by
  refine ⟨by omega, ?_, hat⟩
  rintro rfl
  exact absurd hlow (by decide)

theorem isInert_of_isDigit {base : Nat} {c : Char} (h : Digits.isDigit base c) : IsInert c := by
  have hbounds {low high : Char} (hchar : low ≤ c ∧ c ≤ high) :
      low.toNat ≤ c.toNat ∧ c.toNat ≤ high.toNat := hchar
  unfold Digits.isDigit Digits.value? at h
  dsimp only at h
  split at h
  · next hdigit =>
      have hrange := hbounds hdigit
      simp only [Char.reduceToNat] at hrange
      exact isInert_of_bounds (by omega) (by omega) (by rintro rfl; revert hrange; decide)
  · split at h
    · next hsmall =>
        have hrange := hbounds hsmall
        simp only [Char.reduceToNat] at hrange
        exact isInert_of_bounds (by omega) (by omega) (by rintro rfl; revert hrange; decide)
    · split at h
      · next hcapital =>
          have hrange := hbounds hcapital
          simp only [Char.reduceToNat] at hrange
          exact isInert_of_bounds (by omega) (by omega) (by rintro rfl; revert hrange; decide)
      · simp at h

/-- Characters of labels are inert. -/
theorem isInert_of_isNameChar {c : Char} (h : IsNameChar c) : IsInert c := by
  rcases h with ⟨hlow, hhigh⟩ | ⟨hlow, hhigh⟩ | rfl
  · have hlow : 97 ≤ c.toNat := hlow
    have hhigh : c.toNat ≤ 122 := hhigh
    exact isInert_of_bounds (by omega) hhigh (by rintro rfl; revert hlow; decide)
  · have hlow : 48 ≤ c.toNat := hlow
    have hhigh : c.toNat ≤ 57 := hhigh
    exact isInert_of_bounds hlow (by omega) (by rintro rfl; revert hhigh; decide)
  · exact ⟨by decide, by decide, by decide⟩

/-- The text of a host is inert.  The cases are the three kinds of text, and in each of them the
characters that such a text consists of. -/
theorem Host.IsRelayable.inert {host : List Char} (h : Host.IsRelayable host) :
    ∀ c ∈ host, IsInert c := by
  have hdot : IsInert '.' := ⟨by decide, by decide, by decide⟩
  intro c hc
  cases h with
  | name hname =>
      rcases hname.chars c hc with hchar | rfl
      · exact isInert_of_isNameChar hchar
      · exact hdot
  | dotted =>
      rcases Text.eq_or_mem_of_mem_join hc with rfl | ⟨part, hpart, hc⟩
      · exact hdot
      · obtain ⟨octet, -, rfl⟩ := List.mem_map.mp hpart
        exact isInert_of_isDigit (Digits.isDigit_of_mem_write (by decide) (by decide) hc)
  | bracketed ip hunmap =>
      simp only [List.mem_cons, List.mem_append, List.not_mem_nil, or_false] at hc
      rcases hc with rfl | hc | rfl
      · exact isInert_of_bounds (by decide) (by decide) (by decide)
      · rcases Ipv6.mem_print hunmap hc with hdigit | rfl
        · exact isInert_of_isDigit hdigit
        · exact isInert_of_bounds (by decide) (by decide) (by decide)
      · exact isInert_of_bounds (by decide) (by decide) (by decide)

/-- A host with a text that can be relayed and a port can be relayed. -/
theorem Address.isRelayable_of_bracketed {address : Address}
    (h : Host.IsRelayable address.host.bracketed.toList) : address.IsRelayable := by
  have htext : address.text.toList =
      address.host.bracketed.toList ++ ':' :: Digits.write 10 address.port.toNat := by
    simp [Address.text, Digits.decimal]
  refine ⟨⟨_, h, htext⟩, fun c hc => ?_⟩
  rw [htext, List.mem_append, List.mem_cons] at hc
  rcases hc with hc | rfl | hc
  · exact h.inert c hc
  · exact isInert_of_bounds (by decide) (by decide) (by decide)
  · exact isInert_of_isDigit (Digits.isDigit_of_mem_write (by decide) (by decide) hc)

theorem Address.isRelayable_ofIp (ip : Ip) (port : UInt16) :
    Address.IsRelayable ⟨Host.ofIp ip, port⟩ := by
  refine isRelayable_of_bracketed ?_
  rcases Host.ofIp_cases ip with ⟨inner, hhost⟩ | ⟨same, hunmap, hhost⟩
  · have htext : (Host.ofIp ip).bracketed.toList = inner.print := by
      simp [hhost, Host.bracketed, Host.text, Ip.text, Ip.print]
    rw [htext]
    exact .dotted inner.a inner.b inner.c inner.d
  · have htext : (Host.ofIp ip).bracketed.toList = '[' :: (same.print ++ [']']) := by
      simp [hhost, Host.bracketed, Ip.text, Ip.print]
    rw [htext]
    exact .bracketed same hunmap

/-- A host that a text names can be relayed. -/
theorem Address.isRelayable_of_ofText {text : String} {host : Host} (port : UInt16)
    (h : Host.ofText text = .ok host) : Address.IsRelayable ⟨host, port⟩ := by
  rcases Host.read_cases h with ⟨ip, -, rfl⟩ | ⟨-, name, hname, rfl⟩
  · exact isRelayable_ofIp ip port
  · have hhost : IsHostName (String.ofList name).toList := by
      rw [String.toList_ofList]
      exact isHostName_of_ofText? hname
    exact isRelayable_of_bracketed (.name hhost)

namespace Tunnel

variable {ω τ π ρ ν : Type} {env : Environment ω τ π ρ} {note : τ → ω → ν}

/-- An address that is looked up can be relayed if it could be before: what comes of it is an IP
address, or the address itself. -/
theorem isRelayable_of_normalize {tunnel : Tunnel τ π ρ} {text : String}
    {address target : Address} {world sought : ω} (haddress : address.IsRelayable)
    (h : normalize env tunnel text address world = (.done target, sought)) :
    target.IsRelayable := by
  unfold normalize at h
  split at h
  · generalize env.resolvePreferred tunnel.resolver text world = result at h
    obtain ⟨ending, later⟩ := result
    cases ending with
    | done ip =>
        obtain ⟨rfl, -⟩ := by simpa [Ending.map] using h
        exact Address.isRelayable_ofIp ip address.port
    | _ => simp [Ending.map] at h
  · obtain ⟨rfl, -⟩ := by simpa using h
    exact haddress

/-- **Every address that an attempt finds can be relayed.**  It is a host that a text names, an IP
address that was looked up, or an endpoint, and each of these has a text that can be. -/
theorem isRelayable_of_aim {tunnel : Tunnel τ π ρ} {goal : Goal} {target : Address}
    {world sought : ω} (h : aim env tunnel goal world = (.done target, sought)) :
    target.IsRelayable := by
  cases goal with
  | host text port =>
      unfold aim aimAtHost at h
      dsimp only at h
      generalize hparsed : Host.ofText text = parsed at h
      cases parsed with
      | error cause => simp at h
      | ok host => exact isRelayable_of_normalize (Address.isRelayable_of_ofText port hparsed) h
  | endpoint endpoint limit =>
      cases endpoint with
      | localPath path => simp [aim, aimAtEndpoint] at h
      | inet address =>
          have haddress : (Address.ofSocketAddress address).IsRelayable :=
            Address.isRelayable_ofIp address.ip address.port
          simp only [aim, aimAtEndpoint] at h
          exact isRelayable_of_normalize haddress h

/-- **What proxies read.**  A domain that a text names is a host name.  Whatever was done with a
tunnel, its destination can be relayed, and proxies were asked only for stops on the way to targets
that can, so that the last one was asked for nothing else. -/
theorem relays_inert {route : Route π} {targets : List Address}
    {tunnel : Tunnel (Numbered τ) (Numbered π) ρ} {ledger : Ledger ω ν}
    (h : Reachable env note route targets tunnel ledger) :
    (∀ text name, Host.ofText text = .ok (.domain name) → IsHostName name.toList) ∧
    (∀ target, tunnel.destination = some target → target.IsRelayable) ∧
    ∀ hop stop transport answer, Call.request hop stop transport answer ∈ ledger.calls →
      ∃ target ∈ targets, target.IsRelayable ∧ (route.stops target)[hop]? = some stop ∧
        (hop + 1 = route.length → stop = target) := by
  have htargets : ∀ target ∈ targets, target.IsRelayable :=
    h.aims_at fun _ _ _ _ _ haim => isRelayable_of_aim haim
  refine ⟨?_, ?_, ?_⟩
  · intro text name hname
    exact isHostName_of_ofText? (Host.read_eq_domain_iff.mp hname).2
  · intro target hdestination
    rw [h.established.destination_eq] at hdestination
    exact htargets target (List.mem_of_getLast? hdestination)
  · intro hop stop transport answer hcall
    obtain ⟨target, htarget, hstop⟩ :=
      h.asksFor stop hop (ledger.mem_requests.mpr ⟨transport, answer, hcall⟩)
    refine ⟨target, htarget, htargets target htarget, hstop, fun hlast => ?_⟩
    rw [route.stops_last target hlast] at hstop
    exact (Option.some.inj hstop).symm

/-- Where two proxies relay, the second is asked in small letters for a name told in capitals. -/
theorem relays_small_letters :
    let target : Address := ⟨.domain "example.org", 43⟩
    ∃ targets tunnel ledger,
      Reachable Scripted.environment (fun _ _ => ()) (Scripted.throughTwo {}) targets tunnel
        ledger ∧
      tunnel.destination = some target ∧ (target, 1) ∈ ledger.requests ∧ target.IsRelayable := by
  intro target
  have hcreate : Reachable Scripted.environment (fun _ _ => ()) (Scripted.throughTwo {}) [] _ _ :=
    .create false ({} : Scripted.Stage) rfl
  have hrun := hcreate.step (.pursue (.host "Example.ORG" 43))
  have hrelays := relays_inert hrun
  refine ⟨_, _, _, hrun, ?_, ?_, hrelays.2.1 target ?_⟩
  · decide +kernel
  · decide +kernel
  · decide +kernel

end Tunnel

end RelayRoute
