import RelayRoute.Proofs.HostText

/-!
# Capital and small letters

Hosts and addresses are the same whether their ASCII letters are capital or small.  A reader of
numerals or IP addresses reads the same from a text in small letters, and leaves the same but for
the case of its letters (`Caseless`); a domain name has its characters mapped before anything else
is done with it, and capitals are mapped to what small letters are.

* `eq_of_ascii` — what holds of every ASCII character and its small form holds of all characters;
* `Ipv4.caseless_readFront?`, `Ipv6.caseless_readFront?`, `SocketAddress.read?_toLower` — the
  readers of addresses, each from the readers of its parts;
* `Name.Domain.ofText?_toLower`, `Host.read_toLower`, `Address.read_toLower` — domains, hosts and
  addresses;
* `Domain.IsSmall`, `Domain.ofText?_of_isSmall` — a name of small letters, digits, hyphens and dots
  that is not in Punycode anywhere might as well be left as it is and only be measured: that is what
  comes out of the mapping and all the checks behind it, so that a short way for such names and the
  long way lead to the same;
* `ofText_of_sameLetters` — the main result.
-/

namespace RelayRoute

/-- The texts differ in nothing but the case of ASCII letters. -/
def SameLetters (s t : String) : Prop :=
  s.toList.map Char.toLower = t.toList.map Char.toLower

instance (s t : String) : Decidable (SameLetters s t) :=
  inferInstanceAs (Decidable (_ = _))

/-! ## Characters -/

/-- Characters beyond ASCII are neither capital nor small here. -/
theorem toLower_of_beyond {c : Char} (h : 128 ≤ c.toNat) : c.toLower = c := by
  have hlarge : ¬ (c.val ≥ 'A'.val ∧ c.val ≤ 'Z'.val) := by
    intro hupper
    have hle : c.toNat ≤ 90 := UInt32.le_iff_toNat_le.mp hupper.2
    omega
  exact dif_neg hlarge

/-- What tells no ASCII character from its small form tells no character from it: beyond ASCII the
small form is the character itself. -/
theorem eq_of_ascii {β : Type} {f : Char → β}
    (h : ∀ n : Fin 128, f (Char.ofNat n).toLower = f (Char.ofNat n)) (c : Char) :
    f c.toLower = f c := by
  by_cases hascii : c.toNat < 128
  · have hc := h ⟨c.toNat, hascii⟩
    rwa [Char.ofNat_toNat] at hc
  · rw [toLower_of_beyond (Nat.le_of_not_lt hascii)]

/-- A character becomes one that is no letter only if it is that character. -/
theorem toLower_eq_iff (sep : Char) (hsep : sep.isAlpha = false) (c : Char) :
    c.toLower = sep ↔ c = sep := by
  have hletters : ∀ n : Fin 128, (Char.ofNat n).toLower = Char.ofNat n ∨
      (Char.ofNat n).toLower.isAlpha ∧ (Char.ofNat n).isAlpha := by decide
  have hascii : ∀ n : Fin 128,
      ((Char.ofNat n).toLower = sep) = (Char.ofNat n = sep) := by
    intro n
    rcases hletters n with hsame | ⟨hsmall, hcapital⟩
    · rw [hsame]
    · have hne : ∀ d : Char, d.isAlpha → d ≠ sep := by
        rintro d hd rfl
        rw [hsep] at hd
        cases hd
      simp [hne _ hsmall, hne _ hcapital]
  exact Iff.of_eq (eq_of_ascii (f := (· = sep)) hascii c)

/-- A digit in base ten or sixteen has the same value in either case. -/
theorem Digits.value?_toLower {base : Nat} (hbase : base = 10 ∨ base = 16) (c : Char) :
    value? base c.toLower = value? base c := by
  rcases hbase with rfl | rfl
  · exact eq_of_ascii (by decide) c
  · exact eq_of_ascii (by decide) c

/-- Capitals are mapped to what small letters are. -/
theorem Name.mapChar?_toLower (c : Char) : mapChar? c.toLower = mapChar? c := by
  have hascii : ∀ n : Fin 128, (Char.ofNat n).toLower.toNat < 128 ∧ (Char.ofNat n).toNat < 128 ∧
      mapAscii? (Char.ofNat n).toLower = mapAscii? (Char.ofNat n) := by decide
  apply eq_of_ascii
  intro n
  obtain ⟨hsmall, hcapital, hsame⟩ := hascii n
  rw [mapChar?, mapChar?, if_pos hsmall, if_pos hcapital, hsame]

/-! ## Readers -/

section

variable {α : Type}

/-- A reader reads the same from a text in small letters, and leaves the same in small letters. -/
def Caseless (read : List Char → Option (α × List Char)) : Prop :=
  ∀ cs, read (cs.map Char.toLower) = (read cs).map fun (x, rest) => (x, rest.map Char.toLower)

end

/-- The digits a text starts with are the same in small letters. -/
theorem Digits.span_toLower {base : Nat} (hbase : base = 10 ∨ base = 16) (cs : List Char) :
    span base (cs.map Char.toLower) =
      ((span base cs).1, (span base cs).2.map Char.toLower) := by
  induction cs with
  | nil => rfl
  | cons c cs ih =>
      rw [List.map_cons, span, span, value?_toLower hbase]
      cases value? base c with
      | none => rfl
      | some d => rw [ih]

theorem NumeralFormat.caseless_read? (f : NumeralFormat) (hbase : f.base = 10 ∨ f.base = 16) :
    Caseless f.read? := by
  intro cs
  unfold read?
  rw [Digits.span_toLower hbase]
  dsimp only
  split <;> rfl

/-- A separator that is no letter stands where it stood. -/
theorem after?_toLower (sep : Char) (hsep : sep.isAlpha = false) (cs : List Char) :
    after? sep (cs.map Char.toLower) = (after? sep cs).map (·.map Char.toLower) := by
  cases cs with
  | nil => rfl
  | cons c cs =>
      simp only [List.map_cons, after?, toLower_eq_iff sep hsep]
      split <;> rfl

namespace Ipv4

theorem caseless_readOctet? : Caseless readOctet? := by
  intro cs
  unfold readOctet?
  rw [octetFormat.caseless_read? (.inl rfl), Option.map_map, Option.map_map]
  rfl

theorem caseless_readFront? : Caseless readFront? := by
  intro cs
  have hdot := after?_toLower '.' (by decide)
  unfold readFront?
  simp only [Option.bind_eq_bind, caseless_readOctet? _, hdot, Option.bind_map, Option.map_bind,
    Function.comp_def]
  rfl

end Ipv4

namespace Ipv6

theorem caseless_readWord? : Caseless readWord? := by
  intro cs
  unfold readWord?
  rw [wordFormat.caseless_read? (.inr rfl), Option.map_map, Option.map_map]
  rfl

/-- The words a text starts with are the same in small letters.  The induction is on the room that
is left for words. -/
theorem readWords_toLower (room : Nat) (first : Bool) (cs : List Char) :
    readWords room first (cs.map Char.toLower) =
      { readWords room first cs with rest := (readWords room first cs).rest.map Char.toLower } := by
  induction room generalizing first cs with
  | zero => rfl
  | succ room ih =>
      have hstart : (if first then some (cs.map Char.toLower)
          else after? ':' (cs.map Char.toLower)) =
            (if first then some cs else after? ':' cs).map (·.map Char.toLower) := by
        cases first with
        | true => rfl
        | false => simpa using after?_toLower ':' (by decide) cs
      rw [readWords, readWords, hstart]
      cases (if first then some cs else after? ':' cs) with
      | none => by_cases hroom : room = 0 <;> simp [hroom]
      | some start =>
          simp only [Option.map_some, Option.bind_some, Ipv4.caseless_readFront? start,
            caseless_readWord? start]
          by_cases hroom : room = 0
          · cases readWord? start with
            | none => simp [hroom]
            | some front => simp [hroom, readWords]
          · cases Ipv4.readFront? start with
            | some front => simp [hroom]
            | none =>
                cases readWord? start with
                | none => simp [hroom]
                | some front => simp [hroom, ih]

theorem caseless_readFront? : Caseless readFront? := by
  intro cs
  have hcolon := after?_toLower ':' (by decide)
  unfold readFront?
  simp only [readWords_toLower]
  split
  · rw [Option.map_map]
    rfl
  · split
    · rfl
    · simp only [Option.bind_eq_bind, hcolon, readWords_toLower, Option.bind_map, Option.map_bind,
        Option.map_map, Function.comp_def]

end Ipv6

namespace Ip

theorem caseless_readFront? : Caseless readFront? := by
  intro cs
  unfold readFront?
  rw [Ipv4.caseless_readFront? cs, Ipv6.caseless_readFront? cs]
  cases Ipv4.readFront? cs with
  | some front => rfl
  | none =>
      rw [Option.map_none, Option.map_map, Option.map_map]
      rfl

/-- A text is an IP address if it is one in small letters, and the same one. -/
theorem read?_toLower (cs : List Char) : read? (cs.map Char.toLower) = read? cs := by
  unfold read?
  rw [caseless_readFront? cs]
  rcases readFront? cs with _ | ⟨ip, _ | ⟨c, rest⟩⟩ <;> rfl

end Ip

namespace SocketAddress

theorem caseless_readPort? : Caseless readPort? := by
  intro cs
  have hcolon := after?_toLower ':' (by decide)
  have hport := portFormat.caseless_read? (.inl rfl)
  unfold readPort?
  simp only [Option.bind_eq_bind, hcolon, hport _, Option.bind_map, Option.map_bind,
    Function.comp_def]
  rfl

/-- The scope a text starts with is the same in small letters. -/
theorem readScope_toLower (cs : List Char) :
    readScope (cs.map Char.toLower) = ((readScope cs).1, (readScope cs).2.map Char.toLower) := by
  have hpercent := after?_toLower '%' (by decide) cs
  have hscope := scopeFormat.caseless_read? (.inl rfl)
  unfold readScope
  rw [hpercent]
  cases after? '%' cs with
  | none => rfl
  | some next =>
      rw [Option.map_some, Option.bind_some, Option.bind_some, hscope next]
      cases scopeFormat.read? next with
      | none => rfl
      | some front => rfl

theorem caseless_readV4? : Caseless readV4? := by
  intro cs
  unfold readV4?
  simp only [Option.bind_eq_bind, Ipv4.caseless_readFront? _, caseless_readPort? _,
    Option.bind_map, Option.map_bind, Function.comp_def]
  rfl

theorem caseless_readV6? : Caseless readV6? := by
  intro cs
  have hopening := after?_toLower '[' (by decide)
  have hclosing := after?_toLower ']' (by decide)
  unfold readV6?
  simp only [Option.bind_eq_bind, hopening, Ipv6.caseless_readFront? _, readScope_toLower, hclosing,
    caseless_readPort? _, Option.bind_map, Option.map_bind, Function.comp_def]
  rfl

/-- A text is a socket address if it is one in small letters, and the same one. -/
theorem read?_toLower (cs : List Char) : read? (cs.map Char.toLower) = read? cs := by
  unfold read?
  rw [caseless_readV4? cs, caseless_readV6? cs, ← Option.map_or]
  rcases (readV4? cs).or (readV6? cs) with _ | ⟨address, _ | ⟨c, rest⟩⟩ <;> rfl

end SocketAddress

/-! ## Hosts -/

/-- A name has the ASCII form that it has in small letters. -/
theorem Name.Domain.ofText?_toLower (cs : List Char) :
    ofText? (cs.map Char.toLower) = ofText? cs := by
  have hparts : (cs.map Char.toLower).mapM mapChar? = cs.mapM mapChar? := by
    induction cs with
    | nil => rfl
    | cons c cs ih => simp only [List.map_cons, List.mapM_cons, mapChar?_toLower, ih]
  rw [ofText?, ofText?, map?, map?, hparts]

/-- Two attempts to read something come to the same: both give a value, the same one with the same
text, or both fail.  The errors may differ, since they tell the text that was read. -/
inductive Agree {α : Type} (text : α → String) :
    Except InvalidAddress α → Except InvalidAddress α → Prop
  | found {a b : α} (same : a = b) (printed : text a = text b) : Agree text (.ok a) (.ok b)
  | refused (e f : InvalidAddress) : Agree text (.error e) (.error f)

namespace Agree

variable {α : Type} {text : α → String} {a b : Except InvalidAddress α}

/-- Attempts agree if they give the same, errors apart. -/
theorem of_toOption (h : a.toOption = b.toOption) : Agree text a b := by
  cases a with
  | ok x =>
      cases b with
      | ok y => exact .found (Option.some.inj h) (congrArg text (Option.some.inj h))
      | error f => cases h
  | error e =>
      cases b with
      | ok y => cases h
      | error f => exact .refused e f

end Agree

namespace Host

/-- Brackets around a text stand around it in small letters too. -/
theorem stripBrackets_toLower (cs : List Char) :
    stripBrackets (cs.map Char.toLower) = (stripBrackets cs).map Char.toLower := by
  cases cs with
  | nil => rfl
  | cons c cs =>
      have hopening := toLower_eq_iff '[' (by decide) c
      by_cases hc : c = '['
      · subst hc
        have hlast : (cs.map Char.toLower).getLast? = some ']' ↔ cs.getLast? = some ']' := by
          rw [List.getLast?_map]
          cases cs.getLast? with
          | none => simp
          | some d => simpa using toLower_eq_iff ']' (by decide) d
        have hsmall : '['.toLower = '[' := by decide
        simp only [List.map_cons, hsmall, stripBrackets, hlast]
        split
        · rw [List.map_dropLast]
        · rw [List.map_cons, hsmall]
      · have hsmall : c.toLower ≠ '[' := mt hopening.mp hc
        simp [stripBrackets, hc, hsmall]

/-- A text names the host that it names in small letters, if any. -/
theorem read_toLower (cs : List Char) :
    (read (cs.map Char.toLower)).toOption = (read cs).toOption := by
  unfold read
  rw [stripBrackets_toLower]
  dsimp only
  rw [Ip.read?_toLower, Name.Domain.ofText?_toLower]
  cases Ip.read? (stripBrackets cs) with
  | some ip => rfl
  | none =>
      cases Name.Domain.ofText? (stripBrackets cs) with
      | some name => rfl
      | none => rfl

end Host

/-! ## Addresses -/

/-- The last separator stands where it stood. -/
theorem Text.splitLast?_toLower {sep : Char} (hsep : sep.isAlpha = false) (cs : List Char) :
    splitLast? sep (cs.map Char.toLower) = (splitLast? sep cs).map fun (before, after) =>
      (before.map Char.toLower, after.map Char.toLower) := by
  induction cs with
  | nil => rfl
  | cons c cs ih =>
      rw [List.map_cons, splitLast?, splitLast?, ih]
      cases splitLast? sep cs with
      | some parts => rfl
      | none =>
          simp only [Option.map_none, toLower_eq_iff sep hsep]
          split <;> rfl

/-- A number is read from what stands behind the plus sign, if there is one. -/
theorem NumeralFormat.readSigned?_eq_some_iff {f : NumeralFormat} {cs : List Char} {n : Nat} :
    f.readSigned? cs = some n ↔
      f.read? (if cs.head? = some '+' then cs.tail else cs) = some (n, []) := by
  unfold readSigned?
  cases cs with
  | nil => rcases hread : f.read? [] with _ | ⟨k, _ | ⟨d, rest⟩⟩ <;> simp [hread]
  | cons c cs =>
      by_cases hc : c = '+'
      · rcases hread : f.read? cs with _ | ⟨k, _ | ⟨d, rest⟩⟩ <;> simp [hc, hread]
      · rcases hread : f.read? (c :: cs) with _ | ⟨k, _ | ⟨d, rest⟩⟩ <;> simp [hc, hread]

/-- A number behind a plus sign has no letters in base ten. -/
theorem readSigned?_toLower (cs : List Char) :
    portFormat.readSigned? (cs.map Char.toLower) = portFormat.readSigned? cs := by
  have hplus : (cs.map Char.toLower).head? = some '+' ↔ cs.head? = some '+' := by
    cases cs with
    | nil => rfl
    | cons c cs => simpa using toLower_eq_iff '+' (by decide) c
  have hunsigned : (if (cs.map Char.toLower).head? = some '+' then (cs.map Char.toLower).tail
      else cs.map Char.toLower) =
        (if cs.head? = some '+' then cs.tail else cs).map Char.toLower := by
    simp only [hplus]
    split
    · rw [List.map_tail]
    · rfl
  apply Option.ext
  intro n
  rw [NumeralFormat.readSigned?_eq_some_iff, NumeralFormat.readSigned?_eq_some_iff, hunsigned,
    portFormat.caseless_read? (.inl rfl)]
  rcases portFormat.read? _ with _ | ⟨k, _ | ⟨c, rest⟩⟩ <;> simp

namespace Address

/-- A text is the address that it is in small letters, if any. -/
theorem read_toLower (cs : List Char) :
    (read (cs.map Char.toLower)).toOption = (read cs).toOption := by
  unfold read
  rw [SocketAddress.read?_toLower]
  cases SocketAddress.read? cs with
  | some address => rfl
  | none =>
      dsimp only [readParts]
      rw [Text.splitLast?_toLower (by decide)]
      cases Text.splitLast? ':' cs with
      | none => rfl
      | some parts =>
          obtain ⟨host, port⟩ := parts
          dsimp only [Option.map_some]
          rw [readSigned?_toLower]
          cases portFormat.readSigned? port with
          | none => rfl
          | some port =>
              have hhost := Host.read_toLower host
              dsimp only
              cases hsmall : Host.read (host.map Char.toLower) with
              | ok found =>
                  cases hread : Host.read host with
                  | ok same =>
                      rw [hsmall, hread] at hhost
                      obtain rfl : found = same := Option.some.inj hhost
                      rfl
                  | error e =>
                      rw [hsmall, hread] at hhost
                      cases hhost
              | error e =>
                  cases hread : Host.read host with
                  | ok same =>
                      rw [hsmall, hread] at hhost
                      cases hhost
                  | error f => rfl

end Address

/-! ## Names of small letters -/

namespace Name

/-- A name of small letters, digits, hyphens and dots, and no label of it is in Punycode. -/
structure Domain.IsSmall (name : List Char) : Prop where
  chars : ∀ c ∈ name, c.isLower ∨ c.isDigit ∨ c = '-' ∨ c = '.'
  unmarked : ∀ label ∈ Text.split '.' name, ¬ Label.encodedMark <+: label

/-- A label of characters that are kept is well formed. -/
theorem Label.isWellFormed_of_plain {label : List Char} (h : ∀ c ∈ label, IsPlain c) :
    isWellFormed label := by
  have hnormal : Unicode.isNormal label := by
    rw [Unicode.isNormal, Unicode.normalize_of_ascii fun c hc => (h c hc).1]
    exact beq_self_eq_true label
  have hmark : startsWithMark label = false := by
    cases label with
    | nil => rfl
    | cons c cs =>
        have hascii : ¬ 128 ≤ c.toNat := Nat.not_le_of_lt (h c List.mem_cons_self).1
        simp [startsWithMark, Unicode.isMark, hascii]
  have hmapped : label.all isMapped := by
    apply List.all_eq_true.mpr
    intro c hc
    simp [isMapped, (h c hc).2]
  rw [isWellFormed, hnormal, hmark, hmapped]
  rfl

/-- No ASCII character is written from right to left. -/
theorem Label.isBidirectional_of_ascii {label : List Char} (h : ∀ c ∈ label, c.toNat < 128) :
    isBidirectional label = false := by
  apply List.any_eq_false.mpr
  intro c hc
  rw [Unicode.direction, if_pos (h c hc)]
  unfold Unicode.asciiDirection
  repeat' split
  all_goals decide

namespace Domain

namespace IsSmall

variable {name : List Char}

/-- All characters of such a name are kept. -/
theorem plain (h : IsSmall name) : ∀ c ∈ name, IsPlain c := by
  intro c hc
  have hkept : c.isLower || c.isDigit || c == '-' || c == '.' := by
    rcases h.chars c hc with hc | hc | hc | hc <;> simp [hc]
  have hascii : c.toNat < 128 := by
    rcases h.chars c hc with hsmall | hdigit | rfl | rfl
    · have hle : c.toNat ≤ 122 := of_decide_eq_true (Bool.and_eq_true_iff.mp hsmall).2
      omega
    · have hle : c.toNat ≤ 57 := (Char.isDigit_iff_toNat.mp hdigit).2
      omega
    · decide
    · decide
  refine ⟨hascii, ?_⟩
  rw [mapChar?, if_pos hascii, mapAscii?, if_pos hkept]

/-- Such a name stands for the labels between its dots. -/
theorem labels? (h : IsSmall name) : Domain.labels? name = some (Text.split '.' name) := by
  have hread : (Text.split '.' name).mapM Label.read? = some (Text.split '.' name) := by
    have hid := mapM_map_eq_some (g := id) fun label hlabel =>
      Label.read?_of_unmarked (h.unmarked label hlabel)
    rwa [List.map_id] at hid
  rw [Domain.labels?, map?_of_plain h.plain, Option.bind_some, hread]

/-- Such a name is the one that its labels make. -/
theorem write (h : IsSmall name) : Domain.write (Text.split '.' name) = name := by
  have hmap := map?_of_plain h.plain
  have hunencoded : Unencoded name := by
    refine ⟨fun c hc => (h.plain c hc).1, fun mapped hmapped => ?_⟩
    obtain rfl : name = mapped := Option.some.inj (hmap.symm.trans hmapped)
    exact h.unmarked
  have hwrite := (labels?_of_unencoded hunencoded h.labels?).1
  exact Option.some.inj (hwrite.symm.trans hmap)

/-- The labels of such a name pass all checks: each of them does by its characters alone, and none
is written from right to left. -/
theorem isWellFormed (h : IsSmall name) : Domain.isWellFormed (Text.split '.' name) := by
  have hplain : ∀ label ∈ Text.split '.' name, ∀ c ∈ label, IsPlain c := by
    intro label hlabel c hc
    apply h.plain
    have hmem := Text.mem_join_of_mem '.' hlabel hc
    rwa [Text.join_split] at hmem
  have hformed : (Text.split '.' name).all Label.isWellFormed := by
    apply List.all_eq_true.mpr
    exact fun label hlabel => Label.isWellFormed_of_plain (hplain label hlabel)
  have hdirection : (Text.split '.' name).any Label.isBidirectional = false := by
    apply List.any_eq_false.mpr
    intro label hlabel
    rw [Label.isBidirectional_of_ascii fun c hc => (hplain label hlabel c hc).1]
    exact Bool.false_ne_true
  rw [Domain.isWellFormed, hformed, hdirection]
  rfl

end IsSmall

/-- **A name of small letters is left as it is**, if it fits: the mapping and the checks behind it
change nothing and find nothing wrong. -/
theorem ofText?_of_isSmall {name : List Char} (h : IsSmall name) :
    ofText? name = if fits name then some name else none := by
  by_cases hfits : fits name
  · rw [if_pos hfits]
    apply ofText?_eq_some_iff.mpr
    exact ⟨_, h.labels?, h.isWellFormed, h.write.symm ▸ hfits, h.write⟩
  · rw [if_neg hfits, Option.eq_none_iff_forall_ne_some]
    intro found hfound
    obtain ⟨labels, hlabels, -, hlimits, -⟩ := ofText?_eq_some_iff.mp hfound
    obtain rfl := Option.some.inj (h.labels?.symm.trans hlabels)
    rw [h.write] at hlimits
    exact hfits hlimits

end Domain

end Name

/-! ## The same in capital and in small letters -/

/-- **The case of letters does not matter.**  Texts that differ in the case of ASCII letters only
are the same host and the same address, or both are none.  If one of them is a name of small
letters, the other is read as that name in full, and refused only if that is too long. -/
theorem ofText_of_sameLetters {s t : String} (h : SameLetters s t) :
    Agree Host.text (Host.ofText s) (Host.ofText t) ∧
    Agree Address.text (Address.ofText s) (Address.ofText t) ∧
    (Name.Domain.IsSmall s.toList → Name.Domain.ofText? t.toList =
      if Name.Domain.fits s.toList then some s.toList else none) := by
  have hletters : s.toList.map Char.toLower = t.toList.map Char.toLower := h
  refine ⟨Agree.of_toOption ?_, Agree.of_toOption ?_, fun hsmall => ?_⟩
  · calc (Host.ofText s).toOption
        = (Host.read (s.toList.map Char.toLower)).toOption := (Host.read_toLower _).symm
      _ = (Host.read (t.toList.map Char.toLower)).toOption := by rw [hletters]
      _ = (Host.ofText t).toOption := Host.read_toLower _
  · calc (Address.ofText s).toOption
        = (Address.read (s.toList.map Char.toLower)).toOption := (Address.read_toLower _).symm
      _ = (Address.read (t.toList.map Char.toLower)).toOption := by rw [hletters]
      _ = (Address.ofText t).toOption := Address.read_toLower _
  · calc Name.Domain.ofText? t.toList
        = Name.Domain.ofText? (t.toList.map Char.toLower) :=
          (Name.Domain.ofText?_toLower _).symm
      _ = Name.Domain.ofText? (s.toList.map Char.toLower) := by rw [hletters]
      _ = Name.Domain.ofText? s.toList := Name.Domain.ofText?_toLower _
      _ = if Name.Domain.fits s.toList then some s.toList else none :=
          Name.Domain.ofText?_of_isSmall hsmall

/-- Capitals in a label in Punycode, next to characters of another script, in an IPv6 address, and
in a name that could be left as it is. -/
theorem ofText_capitals :
    Agree Address.text (Address.ofText "XN--Abc-.Example:080")
      (Address.ofText "xn--aBC-.exAmple:080") ∧
    (Address.ofText "XN--Abc-.Example:080").toOption = some ⟨.domain "abc.example", 80⟩ ∧
    Agree Host.text (Host.ofText "BüchER.Example") (Host.ofText "büCHEr.example") ∧
    Agree Host.text (Host.ofText "[2001:DB8::aBcD]") (Host.ofText "[2001:db8::ABcd]") ∧
    (Host.ofText "[2001:DB8::aBcD]").toOption.map Host.text = some "2001:db8::abcd" ∧
    Name.Domain.ofText? "Mail-1.EXAMPLE.org".toList = some "mail-1.example.org".toList := by
  have hsmall : Name.Domain.IsSmall "mail-1.example.org".toList := ⟨by simp, by decide +kernel⟩
  have hfits : Name.Domain.fits "mail-1.example.org".toList := by decide +kernel
  refine ⟨?_, by decide +kernel, ?_, ?_, by decide +kernel, ?_⟩
  · exact (ofText_of_sameLetters (by decide)).2.1
  · exact (ofText_of_sameLetters (by decide)).1
  · exact (ofText_of_sameLetters (by decide)).1
  · have hsame : SameLetters "mail-1.example.org" "Mail-1.EXAMPLE.org" := by decide
    have hname := (ofText_of_sameLetters hsame).2.2 hsmall
    rwa [if_pos hfits] at hname

end RelayRoute
