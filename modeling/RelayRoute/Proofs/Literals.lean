import RelayRoute.Endpoint

/-!
# Texts of IP addresses

What the readers of IP addresses look at.  A reader takes characters of one kind only from the front
of a text (`Takes`), and goes no further than a character of another kind (`StopsAt`).  So an IPv4
address consists of digits and dots, an IPv6 address of digits, colons and dots, and a text without
colons is no IPv6 address.

* `Digits.span_append_cons`, `NumeralFormat.takes_read?` — the same for digits and numerals;
* `Ipv4.takes_readFront?`, `Ipv4.stopsAt_readFront?` — for IPv4 addresses;
* `Ipv6.takes_readFront?`, `Ipv6.stopsAt_readFront?` — for IPv6 addresses, by induction on the
  words;
* `Ip.read?_eq_v4_iff`, `Ip.read?_eq_v6_iff` — so a whole text is an address of at most one of the
  two families.
-/

namespace RelayRoute

variable {α : Type}

/-- A reader takes nothing but characters of a kind from the front of a text. -/
def Takes (kind : Char → Prop) (read : List Char → Option (α × List Char)) : Prop :=
  ∀ {cs : List Char} {x : α} {rest : List Char}, read cs = some (x, rest) →
    ∃ used, cs = used ++ rest ∧ ∀ c ∈ used, kind c

/-- A reader reads what stands before a character as if the text ended there. -/
def StopsAt (stop : Char) (read : List Char → Option (α × List Char)) : Prop :=
  ∀ before after, read (before ++ stop :: after) =
    (read before).map fun (x, rest) => (x, rest ++ stop :: after)

namespace StopsAt

variable {stop : Char} {read : List Char → Option (α × List Char)}

/-- What stands in front of the character is read as a whole if the character is left with what
follows it. -/
theorem whole_iff (h : StopsAt stop read) {before : List Char} (after : List Char) {x : α} :
    read (before ++ stop :: after) = some (x, stop :: after) ↔ read before = some (x, []) := by
  rw [h before after]
  constructor
  · intro hsome
    obtain ⟨⟨y, unread⟩, hread, heq⟩ := Option.map_eq_some_iff.mp hsome
    obtain ⟨rfl, rfl⟩ : y = x ∧ unread = [] := by simpa using heq
    exact hread
  · intro hread
    simp [hread]

theorem ne_whole (h : StopsAt stop read) {before after : List Char} {x : α} :
    read (before ++ stop :: after) ≠ some (x, []) := by
  intro hsome
  rw [h before after] at hsome
  obtain ⟨⟨y, unread⟩, -, heq⟩ := Option.map_eq_some_iff.mp hsome
  simp at heq

end StopsAt

/-! ## Numerals -/

namespace Digits

/-- The digits a text starts with stand in front of the rest. -/
theorem eq_append_of_span {base : Nat} {cs rest : List Char} {ds : List Nat}
    (h : span base cs = (ds, rest)) :
    ∃ used, cs = used ++ rest ∧ ∀ c ∈ used, isDigit base c := by
  induction cs generalizing ds with
  | nil =>
      obtain ⟨-, rfl⟩ := by simpa [span] using h
      exact ⟨[], rfl, by simp⟩
  | cons c cs ih =>
      rw [span] at h
      cases hc : value? base c with
      | none =>
          rw [hc] at h
          obtain ⟨-, rfl⟩ := by simpa using h
          exact ⟨[], rfl, by simp⟩
      | some d =>
          rcases hspan : span base cs with ⟨ds', rest'⟩
          rw [hc, hspan] at h
          obtain ⟨-, rfl⟩ := by simpa using h
          obtain ⟨used, rfl, hused⟩ := ih hspan
          have hdigit : isDigit base c := by simp [isDigit, hc]
          exact ⟨c :: used, rfl, by simpa [hdigit] using hused⟩

/-- Digits are taken up to a character that is none. -/
theorem span_append_cons {base : Nat} {stop : Char} (hstop : value? base stop = none)
    (before after : List Char) :
    span base (before ++ stop :: after) =
      ((span base before).1, (span base before).2 ++ stop :: after) := by
  induction before with
  | nil => simp [span, hstop]
  | cons c before ih =>
      rw [List.cons_append, span, span]
      cases value? base c with
      | none => rfl
      | some d => rw [ih]

end Digits

namespace NumeralFormat

variable (f : NumeralFormat)

theorem takes_read? : Takes (fun c => Digits.isDigit f.base c) f.read? := by
  intro cs n rest h
  unfold read? at h
  rcases hspan : Digits.span f.base cs with ⟨ds, rest'⟩
  rw [hspan] at h
  by_cases haccepts : f.accepts ds
  · obtain ⟨-, rfl⟩ := by simpa [haccepts] using h
    exact Digits.eq_append_of_span hspan
  · simp [haccepts] at h

theorem stopsAt_read? {stop : Char} (hstop : Digits.value? f.base stop = none) :
    StopsAt stop f.read? := by
  intro before after
  unfold read?
  rw [Digits.span_append_cons hstop]
  dsimp only
  split <;> rfl

end NumeralFormat

/-- What follows a separator follows it in the text. -/
theorem eq_cons_of_after? {sep : Char} {cs rest : List Char} (h : after? sep cs = some rest) :
    cs = sep :: rest := by
  cases cs with
  | nil => cases h
  | cons c cs =>
      rw [after?] at h
      by_cases hc : c = sep
      · obtain rfl : cs = rest := by simpa [hc] using h
        rw [hc]
      · simp [hc] at h

/-- Where there is no separator nothing follows one. -/
theorem after?_of_not_mem {sep : Char} {cs : List Char} (h : sep ∉ cs) : after? sep cs = none := by
  cases hcs : after? sep cs with
  | none => rfl
  | some rest =>
      rw [eq_cons_of_after? hcs] at h
      exact absurd List.mem_cons_self h

/-- What follows a separator goes on up to another character. -/
theorem after?_append_cons {sep stop : Char} (hne : stop ≠ sep) (before after : List Char) :
    after? sep (before ++ stop :: after) = (after? sep before).map (· ++ stop :: after) := by
  cases before with
  | nil => simp [after?, hne]
  | cons c before =>
      by_cases hc : c = sep
      · simp [after?, hc]
      · simp [after?, hc]

/-! ## IPv4 addresses -/

/-- What IPv4 addresses are written in. -/
def IsDotted (c : Char) : Prop :=
  Digits.isDigit 10 c ∨ c = '.'

namespace Ipv4

theorem takes_readOctet? : Takes (fun c => Digits.isDigit 10 c) readOctet? := by
  intro cs octet rest h
  obtain ⟨⟨n, rest'⟩, hread, hoctet⟩ := Option.map_eq_some_iff.mp h
  obtain ⟨-, rfl⟩ := by simpa using hoctet
  exact octetFormat.takes_read? hread

theorem stopsAt_readOctet? {stop : Char} (hstop : Digits.value? 10 stop = none) :
    StopsAt stop readOctet? := by
  intro before after
  unfold readOctet?
  rw [octetFormat.stopsAt_read? hstop, Option.map_map, Option.map_map]
  rfl

theorem takes_dot_readOctet? {cs rest next : List Char} {octet : UInt8}
    (hdot : after? '.' cs = some next) (h : readOctet? next = some (octet, rest)) :
    ∃ used, cs = used ++ rest ∧ ∀ c ∈ used, IsDotted c := by
  obtain ⟨used, rfl, hused⟩ := takes_readOctet? h
  refine ⟨'.' :: used, eq_cons_of_after? hdot, fun c hc => ?_⟩
  rcases List.mem_cons.mp hc with rfl | hc
  · exact .inr rfl
  · exact .inl (hused c hc)

/-- An IPv4 address consists of digits and dots. -/
theorem takes_readFront? : Takes IsDotted readFront? := by
  intro cs ip rest h
  simp only [readFront?, Option.bind_eq_bind, Option.bind_eq_some_iff] at h
  obtain ⟨⟨a, cs₁⟩, ha, next₁, hdot₁, ⟨b, cs₂⟩, hb, next₂, hdot₂, ⟨c, cs₃⟩, hc, next₃, hdot₃,
    ⟨d, cs₄⟩, hd, hip⟩ := h
  obtain ⟨-, rfl⟩ := by simpa using hip
  obtain ⟨used₁, rfl, hused₁⟩ := takes_readOctet? ha
  obtain ⟨used₂, rfl, hused₂⟩ := takes_dot_readOctet? hdot₁ hb
  obtain ⟨used₃, rfl, hused₃⟩ := takes_dot_readOctet? hdot₂ hc
  obtain ⟨used₄, rfl, hused₄⟩ := takes_dot_readOctet? hdot₃ hd
  refine ⟨used₁ ++ (used₂ ++ (used₃ ++ used₄)), by simp only [List.append_assoc], fun c hc => ?_⟩
  simp only [List.mem_append] at hc
  rcases hc with hc | hc | hc | hc
  · exact .inl (hused₁ c hc)
  · exact hused₂ c hc
  · exact hused₃ c hc
  · exact hused₄ c hc

/-- An IPv4 address is not read past a character of another kind. -/
theorem stopsAt_readFront? {stop : Char} (hstop : Digits.value? 10 stop = none)
    (hdot : stop ≠ '.') : StopsAt stop readFront? := by
  intro before after
  have hoctet := stopsAt_readOctet? hstop
  have hafter := after?_append_cons hdot
  unfold readFront?
  simp only [Option.bind_eq_bind, hoctet _ after, hafter _ after, Option.bind_map, Option.map_bind,
    Function.comp_def]
  rfl

end Ipv4

/-! ## IPv6 addresses -/

namespace Ipv6

theorem takes_readWord? : Takes (fun c => Digits.isDigit 16 c) readWord? := by
  intro cs word rest h
  obtain ⟨⟨n, rest'⟩, hread, hword⟩ := Option.map_eq_some_iff.mp h
  obtain ⟨-, rfl⟩ := by simpa using hword
  exact wordFormat.takes_read? hread

/-- Without a colon there is no second word. -/
theorem readWords_of_no_colon (room : Nat) {cs : List Char} (h : ':' ∉ cs) :
    readWords room false cs = ⟨[], false, cs⟩ := by
  cases room with
  | zero => rfl
  | succ room => simp [readWords, after?_of_not_mem h]

/-- A text without colons is no IPv6 address: one word, or an IPv4 address in the place of two, is
all there is before the first colon, and that is too little. -/
theorem readFront?_of_no_colon {cs : List Char} (h : ':' ∉ cs) : readFront? cs = none := by
  have hwords : ∃ words : Words, readWords 8 true cs = words ∧ words.words.length < 8 ∧
      (words.endsInIpv4 ∨ ':' ∉ words.rest) := by
    rw [readWords]
    cases hipv4 : Ipv4.readFront? cs with
    | some front =>
        obtain ⟨ip, rest⟩ := front
        exact ⟨⟨ip.words, true, rest⟩, by simp [hipv4], by simp [Ipv4.words], .inl rfl⟩
    | none =>
        cases hword : readWord? cs with
        | none => exact ⟨⟨[], false, cs⟩, by simp [hipv4, hword], by simp, .inr h⟩
        | some front =>
            obtain ⟨word, rest⟩ := front
            obtain ⟨used, rfl, -⟩ := takes_readWord? hword
            have hrest : ':' ∉ rest := fun hmem => h (List.mem_append_right _ hmem)
            refine ⟨⟨[word], false, rest⟩, ?_, by simp, .inr hrest⟩
            simp [hipv4, hword, readWords_of_no_colon 7 hrest]
  obtain ⟨words, hread, hfew, hends⟩ := hwords
  have hlength : words.words.length ≠ 8 := Nat.ne_of_lt hfew
  unfold readFront?
  rw [hread]
  dsimp only
  rw [if_neg hlength]
  rcases hends with hends | hrest
  · rw [if_pos hends]
  · split
    · rfl
    · simp [after?_of_not_mem hrest]

/-- What IPv6 addresses are written in. -/
def IsColoned (c : Char) : Prop :=
  Digits.isDigit 16 c ∨ IsDotted c ∨ c = ':'

/-- Where a word may start, a text goes on behind the colon that stands in front of the word. -/
theorem eq_append_of_start? {first : Bool} {cs start : List Char}
    (h : (if first then some cs else after? ':' cs) = some start) :
    ∃ used, cs = used ++ start ∧ ∀ c ∈ used, IsColoned c := by
  cases first with
  | true =>
      obtain rfl : cs = start := by simpa using h
      exact ⟨[], rfl, by simp⟩
  | false =>
      have hcolon : after? ':' cs = some start := by simpa using h
      refine ⟨[':'], eq_cons_of_after? hcolon, fun c hc => ?_⟩
      exact .inr (.inr (List.mem_singleton.mp hc))

/-- Words are taken from the front of a text, with the colons between them.  The induction is on the
room that is left, and an IPv4 address may take the place of the last two words. -/
theorem eq_append_of_readWords (room : Nat) (first : Bool) (cs : List Char) :
    ∃ used, cs = used ++ (readWords room first cs).rest ∧ ∀ c ∈ used, IsColoned c := by
  induction room generalizing first cs with
  | zero => exact ⟨[], rfl, by simp⟩
  | succ room ih =>
      rw [readWords]
      dsimp only
      split
      · next ip rest hipv4 =>
          obtain ⟨start, hstart, hfront⟩ : ∃ start,
              (if first then some cs else after? ':' cs) = some start ∧
                Ipv4.readFront? start = some (ip, rest) := by
            by_cases hroom : room = 0
            · simp [hroom] at hipv4
            · exact Option.bind_eq_some_iff.mp (by simpa [hroom] using hipv4)
          obtain ⟨colon, rfl, hcolon⟩ := eq_append_of_start? hstart
          obtain ⟨used, rfl, hused⟩ := Ipv4.takes_readFront? hfront
          refine ⟨colon ++ used, (List.append_assoc ..).symm, fun c hc => ?_⟩
          rcases List.mem_append.mp hc with hc | hc
          · exact hcolon c hc
          · exact .inr (.inl (hused c hc))
      · split
        · next word rest hword =>
            obtain ⟨start, hstart, hfront⟩ := Option.bind_eq_some_iff.mp hword
            obtain ⟨colon, rfl, hcolon⟩ := eq_append_of_start? hstart
            obtain ⟨used, rfl, hused⟩ := takes_readWord? hfront
            obtain ⟨others, hrest, hothers⟩ := ih false rest
            refine ⟨colon ++ (used ++ others), ?_, fun c hc => ?_⟩
            · dsimp only
              rw [List.append_assoc, List.append_assoc, ← hrest]
            · simp only [List.mem_append] at hc
              rcases hc with hc | hc | hc
              · exact hcolon c hc
              · exact .inl (hused c hc)
              · exact hothers c hc
        · exact ⟨[], rfl, by simp⟩

/-- An IPv6 address consists of digits, colons and dots. -/
theorem takes_readFront? : Takes IsColoned readFront? := by
  intro cs ip rest h
  obtain ⟨front, hfront, hcoloned⟩ := eq_append_of_readWords 8 true cs
  unfold readFront? at h
  dsimp only at h
  split at h
  · obtain ⟨_, -, hip⟩ := Option.map_eq_some_iff.mp h
    obtain ⟨-, rfl⟩ := by simpa using hip
    exact ⟨front, hfront, hcoloned⟩
  · split at h
    · cases h
    · simp only [Option.bind_eq_bind, Option.bind_eq_some_iff] at h
      obtain ⟨next, hnext, following, hfollowing, hback⟩ := h
      obtain ⟨_, -, hip⟩ := Option.map_eq_some_iff.mp hback
      obtain ⟨-, rfl⟩ := by simpa using hip
      obtain ⟨back, hbackward, hothers⟩ := eq_append_of_readWords
        (7 - (readWords 8 true cs).words.length) true following
      refine ⟨front ++ (':' :: ':' :: back), ?_, fun c hc => ?_⟩
      · rw [List.append_assoc, List.cons_append, List.cons_append, ← hbackward,
          ← eq_cons_of_after? hfollowing, ← eq_cons_of_after? hnext]
        exact hfront
      · simp only [List.mem_append, List.mem_cons] at hc
        rcases hc with hc | hc | hc | hc
        · exact hcoloned c hc
        · exact .inr (.inr hc)
        · exact .inr (.inr hc)
        · exact hothers c hc

section

variable {stop : Char} (hhex : Digits.value? 16 stop = none)
  (hdecimal : Digits.value? 10 stop = none) (hdot : stop ≠ '.') (hcolon : stop ≠ ':')

include hhex in
theorem stopsAt_readWord? : StopsAt stop readWord? := by
  intro before after
  unfold readWord?
  rw [wordFormat.stopsAt_read? hhex, Option.map_map, Option.map_map]
  rfl

include hhex hdecimal hdot hcolon

/-- Words are not read past a character of another kind.  The induction is on the room that is left,
as the words are read. -/
theorem readWords_append_cons (after : List Char) (room : Nat) (first : Bool)
    (before : List Char) :
    readWords room first (before ++ stop :: after) =
      { readWords room first before with
        rest := (readWords room first before).rest ++ stop :: after } := by
  induction room generalizing first before with
  | zero => rfl
  | succ room ih =>
      have hstart : (if first then some (before ++ stop :: after)
          else after? ':' (before ++ stop :: after)) =
            (if first then some before else after? ':' before).map (· ++ stop :: after) := by
        cases first with
        | true => rfl
        | false => simpa using after?_append_cons hcolon before after
      have hfront (start : List Char) := Ipv4.stopsAt_readFront? hdecimal hdot start after
      have hword (start : List Char) := stopsAt_readWord? hhex start after
      rw [readWords, readWords, hstart]
      cases hbefore : (if first then some before else after? ':' before) with
      | none => by_cases hroom : room = 0 <;> simp [hroom]
      | some start =>
          simp only [Option.map_some, Option.bind_some, hfront, hword]
          cases hipv4 : (if room = 0 then none else Ipv4.readFront? start) with
          | some front =>
              obtain ⟨ip, rest⟩ := front
              have hroom : room ≠ 0 := by
                intro hroom
                simp [hroom] at hipv4
              have hsome : Ipv4.readFront? start = some (ip, rest) := by simpa [hroom] using hipv4
              simp [hroom, hsome]
          | none =>
              have hnone (f : Ipv4 × List Char → Ipv4 × List Char) :
                  (if room = 0 then none else (Ipv4.readFront? start).map f) = none := by
                by_cases hroom : room = 0
                · simp [hroom]
                · have hnot : Ipv4.readFront? start = none := by simpa [hroom] using hipv4
                  simp [hnot]
              rw [hnone]
              cases readWord? start with
              | none => rfl
              | some front => simp [ih]

/-- An IPv6 address is not read past a character of another kind. -/
theorem stopsAt_readFront? : StopsAt stop readFront? := by
  intro before after
  have hwords := readWords_append_cons hhex hdecimal hdot hcolon after
  have hafter := after?_append_cons hcolon
  unfold readFront?
  simp only [hwords]
  split
  · rw [Option.map_map]
    rfl
  · split
    · rfl
    · simp only [Option.bind_eq_bind, hafter _ after, hwords, Option.bind_map, Option.map_bind,
        Option.map_map, Function.comp_def]

end

/-- A text that starts with an IPv4 address is no IPv6 address. -/
theorem readFront?_of_ipv4 {cs rest : List Char} {inner : Ipv4}
    (h : Ipv4.readFront? cs = some (inner, rest)) : readFront? cs = none := by
  have hwords : readWords 8 true cs = ⟨inner.words, true, rest⟩ := by simp [readWords, h]
  simp [readFront?, hwords, Ipv4.words]

end Ipv6

/-! ## Addresses of either family -/

namespace Ip

/-- A text is an IPv4 address if one is read from it and nothing is left. -/
theorem read?_eq_v4_iff {cs : List Char} {ip : Ipv4} :
    read? cs = some (.v4 ip) ↔ Ipv4.readFront? cs = some (ip, []) := by
  unfold read? readFront?
  cases hipv4 : Ipv4.readFront? cs with
  | some front =>
      obtain ⟨inner, rest⟩ := front
      cases rest <;> simp
  | none =>
      rcases Ipv6.readFront? cs with _ | ⟨same, rest⟩
      · simp
      · cases rest <;> simp

/-- A text is an IPv6 address if one is read from it and nothing is left. -/
theorem read?_eq_v6_iff {cs : List Char} {ip : Ipv6} :
    read? cs = some (.v6 ip) ↔ Ipv6.readFront? cs = some (ip, []) := by
  unfold read? readFront?
  cases hipv4 : Ipv4.readFront? cs with
  | some front =>
      obtain ⟨inner, rest⟩ := front
      cases rest <;> simp [Ipv6.readFront?_of_ipv4 hipv4]
  | none =>
      rcases Ipv6.readFront? cs with _ | ⟨same, rest⟩
      · simp
      · cases rest <;> simp

end Ip

/-- A text without colons that is an IP address is an IPv4 one. -/
theorem Ip.readFront?_of_read? {cs : List Char} {ip : Ip} (h : read? cs = some ip)
    (hcolon : ':' ∉ cs) : ∃ inner, Ipv4.readFront? cs = some (inner, []) := by
  unfold read? readFront? at h
  cases hfront : Ipv4.readFront? cs with
  | none => simp [hfront, Ipv6.readFront?_of_no_colon hcolon] at h
  | some front =>
      obtain ⟨inner, rest⟩ := front
      cases rest with
      | nil => exact ⟨inner, rfl⟩
      | cons c rest => simp [hfront] at h

end RelayRoute
