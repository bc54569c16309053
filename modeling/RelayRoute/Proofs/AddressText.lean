import RelayRoute.Proofs.HostText

/-!
# IP addresses are read as they are printed

Every reader of addresses takes exactly the text that was printed from the front of a longer one, if
what follows does not go on like an address.  Bracketed, unbracketed and in front of a port, the
text of an address therefore names that address and no other host.

* `Ip.StandsFor`, `Ip.canonical_eq_v4_iff` — the IPv4 address that an address stands for;
* `Ipv4.readFront?_print` — IPv4 addresses are read as they are printed;
* `Ipv6.readWords_print`, `Ipv6.eq_append_of_longestZeroRun` — for IPv6 this rests on two facts: the
  words before and after the longest run of zeros are read up to its two colons, and the zeros that
  were left out are those that are missing;
* `Ipv6.readFront?_print`, `Ip.ofText?_text` — so IPv6 addresses are read as they are printed, too,
  and also those that stand for an IPv4 address;
* `Host.ofText_text`, `Host.ofText_bracketed` — the same for hosts;
* `Address.ofText_printed` — the main result.
-/

namespace RelayRoute

/-! ## Addresses that stand for others -/

namespace Ipv4

/-- Two words are the address that they hold. -/
theorem words_ofWords (high low : UInt16) : (ofWords high low).words = [high, low] := by
  have hword (w : UInt16) :
      word (UInt8.ofNat (w.toNat / 256)) (UInt8.ofNat (w.toNat % 256)) = w := by
    have hlt : w.toNat < 65536 := w.toNat_lt
    have hhigh : (UInt8.ofNat (w.toNat / 256)).toNat = w.toNat / 256 :=
      UInt8.toNat_ofNat_of_lt' (by simp only [UInt8.size]; omega)
    have hlow : (UInt8.ofNat (w.toNat % 256)).toNat = w.toNat % 256 :=
      UInt8.toNat_ofNat_of_lt' (by simp only [UInt8.size]; omega)
    rw [word, hhigh, hlow, Nat.div_add_mod', UInt16.ofNat_toNat]
  rw [words, ofWords, hword, hword]

/-- A word tells the octets that it is made of. -/
theorem word_injective {a b c d : UInt8} (h : word a b = word c d) : a = c ∧ b = d := by
  have hb : b.toNat < 256 := b.toNat_lt
  have hd : d.toNat < 256 := d.toNat_lt
  have hnat (high low : UInt8) : (word high low).toNat = high.toNat * 256 + low.toNat := by
    have hhigh : high.toNat < 256 := high.toNat_lt
    have hlow : low.toNat < 256 := low.toNat_lt
    exact UInt16.toNat_ofNat_of_lt' (by simp only [UInt16.size]; omega)
  have hsame : a.toNat * 256 + b.toNat = c.toNat * 256 + d.toNat := by
    rw [← hnat, ← hnat, h]
  exact ⟨UInt8.toNat_inj.mp (by omega), UInt8.toNat_inj.mp (by omega)⟩

/-- An address is told by its words. -/
theorem words_injective {ip other : Ipv4} (h : ip.words = other.words) : ip = other := by
  obtain ⟨hhigh, hlow⟩ : word ip.a ip.b = word other.a other.b ∧
      word ip.c ip.d = word other.c other.d := by
    simpa [words] using h
  obtain ⟨ha, hb⟩ := word_injective hhigh
  obtain ⟨hc, hd⟩ := word_injective hlow
  calc ip = ⟨ip.a, ip.b, ip.c, ip.d⟩ := rfl
    _ = ⟨other.a, other.b, other.c, other.d⟩ := by rw [ha, hb, hc, hd]

end Ipv4

/-- An IPv6 address of a certain form stands for the IPv4 address in its last two words. -/
theorem Ipv6.unmap?_eq_some_iff {ip : Ipv6} {inner : Ipv4} :
    ip.unmap? = some inner ↔ ip.words = [0, 0, 0, 0, 0, 0xffff] ++ inner.words := by
  unfold unmap?
  constructor
  · intro h
    split at h
    · next high low hwords =>
        rw [hwords, ← Option.some.inj h, Ipv4.words_ofWords]
        rfl
    · cases h
  · intro h
    rw [h]
    exact congrArg some (Ipv4.words_injective (Ipv4.words_ofWords _ _))

namespace Ip

/-- An address is an IPv4 address, or the IPv6 form of one. -/
def StandsFor (ip : Ip) (inner : Ipv4) : Prop :=
  ip = .v4 inner ∨ ∃ mapped : Ipv6, ip = .v6 mapped ∧
    mapped.words = [0, 0, 0, 0, 0, 0xffff] ++ inner.words

/-- An address that stands for an IPv4 one is turned into that. -/
theorem canonical_eq_v4_iff {ip : Ip} {inner : Ipv4} :
    ip.canonical = .v4 inner ↔ ip.StandsFor inner := by
  unfold canonical StandsFor
  cases ip with
  | v4 ip => simp
  | v6 ip =>
      simp only [← Ipv6.unmap?_eq_some_iff]
      cases hinner : ip.unmap? <;> simp [hinner]

/-- Any other address stays what it is. -/
theorem canonical_eq_v6_iff {ip : Ip} {same : Ipv6} :
    ip.canonical = .v6 same ↔ ip = .v6 same ∧ same.unmap? = none := by
  unfold canonical
  cases ip with
  | v4 ip => simp
  | v6 ip =>
      cases hinner : ip.unmap? with
      | none =>
          simp only [hinner, v6.injEq]
          constructor
          · rintro rfl
            exact ⟨rfl, hinner⟩
          · exact fun h => h.1
      | some inner =>
          simp only [hinner, v6.injEq, reduceCtorEq, false_iff, not_and]
          rintro rfl
          simp [hinner]

/-- The address that an address stands for stands for no other. -/
theorem canonical_canonical (ip : Ip) : ip.canonical.canonical = ip.canonical := by
  cases hip : ip.canonical with
  | v4 inner => rfl
  | v6 same => exact canonical_eq_v6_iff.mpr ⟨rfl, (canonical_eq_v6_iff.mp hip).2⟩

end Ip

/-! ## IPv4 addresses -/

namespace Ipv4

/-- An octet is read as it was printed. -/
theorem readOctet?_write (octet : UInt8) {rest : List Char}
    (hrest : ∀ c ∈ rest.head?, Digits.value? 10 c = none) :
    readOctet? (Digits.write 10 octet.toNat ++ rest) = some (octet, rest) := by
  have hlt : octet.toNat < 256 := octet.toNat_lt
  have hread : octetFormat.read? (Digits.write 10 octet.toNat ++ rest) =
      some (octet.toNat, rest) := by
    refine NumeralFormat.read?_write (f := octetFormat) (by decide) (by decide) ?_ hlt hrest
    intro k hk
    obtain rfl : 3 = k := Option.some.inj hk
    refine ⟨by decide, ?_⟩
    calc octet.toNat < 256 := hlt
      _ < Nat.pow octetFormat.base 3 := by decide
  rw [readOctet?, hread]
  simp

/-- Four octets with dots between them. -/
theorem print_eq (ip : Ipv4) :
    ip.print = Digits.write 10 ip.a.toNat ++ '.' :: (Digits.write 10 ip.b.toNat ++
      '.' :: (Digits.write 10 ip.c.toNat ++ '.' :: Digits.write 10 ip.d.toNat)) :=
  rfl

/-- An IPv4 address is read as it was printed. -/
theorem readFront?_print (ip : Ipv4) {rest : List Char}
    (hrest : ∀ c ∈ rest.head?, Digits.value? 10 c = none) :
    readFront? (ip.print ++ rest) = some (ip, rest) := by
  have hdot {following : List Char} (octet : UInt8) :
      readOctet? (Digits.write 10 octet.toNat ++ '.' :: following) =
        some (octet, '.' :: following) := by
    refine readOctet?_write octet fun c hc => ?_
    obtain rfl : '.' = c := by simpa using hc
    decide
  simp only [print_eq, List.append_assoc, List.cons_append, readFront?, hdot,
    readOctet?_write ip.d hrest, after?, Option.bind_eq_bind, Option.bind_some, if_true]
  rfl

/-- A text without dots does not start with an IPv4 address. -/
theorem readFront?_of_no_dot {cs : List Char} (h : '.' ∉ cs) : readFront? cs = none := by
  cases hoctet : readOctet? cs with
  | none => simp [readFront?, hoctet]
  | some front =>
      obtain ⟨octet, rest⟩ := front
      obtain ⟨used, rfl, -⟩ := takes_readOctet? hoctet
      have hrest : after? '.' rest = none :=
        after?_of_not_mem fun hdot => h (List.mem_append_right used hdot)
      simp [readFront?, hoctet, hrest]

end Ipv4

/-! ## The words of IPv6 addresses -/

namespace Ipv6

/-- A word is read as it was printed. -/
theorem readWord?_write (word : UInt16) {rest : List Char}
    (hrest : ∀ c ∈ rest.head?, Digits.value? 16 c = none) :
    readWord? (Digits.write 16 word.toNat ++ rest) = some (word, rest) := by
  have hlt : word.toNat < 65536 := word.toNat_lt
  have hread : wordFormat.read? (Digits.write 16 word.toNat ++ rest) =
      some (word.toNat, rest) := by
    refine NumeralFormat.read?_write (f := wordFormat) (by decide) (by decide) ?_ hlt hrest
    intro k hk
    obtain rfl : 4 = k := Option.some.inj hk
    exact ⟨by decide, hlt⟩
  rw [readWord?, hread]
  simp

/-- Where no digit stands there is no word. -/
theorem readWord?_of_head {cs : List Char} (h : ∀ c ∈ cs.head?, Digits.value? 16 c = none) :
    readWord? cs = none := by
  have hspan : Digits.span 16 ([] ++ cs) = ([], cs) := Digits.span_append rfl h
  rw [List.nil_append] at hspan
  simp [readWord?, NumeralFormat.read?, wordFormat, hspan, NumeralFormat.accepts]

/-- Words with a colon in front of each. -/
def printBehind (words : List UInt16) : List Char :=
  words.flatMap fun word => ':' :: Digits.write 16 word.toNat

/-- A colon stands in front of each word but the first. -/
theorem printWords_cons (word : UInt16) (words : List UInt16) :
    printWords (word :: words) = Digits.write 16 word.toNat ++ printBehind words := by
  rw [printWords, List.map_cons, Text.join_cons, List.flatMap_map]
  rfl

theorem dot_not_mem_write (word : UInt16) : '.' ∉ Digits.write 16 word.toNat := by
  intro hdot
  exact absurd (Digits.isDigit_of_mem_write (by decide) (by decide) hdot) (by decide)

/-- A text that goes on neither with another word nor with an IPv4 address, so that words in front
of it are read up to it and no further. -/
structure Ends (rest : List Char) : Prop where
  no_dot : '.' ∉ rest
  no_digit : ∀ c ∈ rest.head?, Digits.value? 16 c = none
  no_word : (after? ':' rest).bind readWord? = none

/-- Words with colons in front of them have no dots. -/
theorem dot_not_mem_printBehind (words : List UInt16) {rest : List Char} (h : '.' ∉ rest) :
    '.' ∉ printBehind words ++ rest := by
  intro hdot
  rcases List.mem_append.mp hdot with hdot | hdot
  · obtain ⟨word, -, hword⟩ := List.mem_flatMap.mp hdot
    rcases List.mem_cons.mp hword with hcolon | hword
    · exact absurd hcolon (by decide)
    · exact dot_not_mem_write word hword
  · exact h hdot

/-- Words with colons in front of them do not start with a digit. -/
theorem head?_printBehind (words : List UInt16) {rest : List Char}
    (h : ∀ c ∈ rest.head?, Digits.value? 16 c = none) :
    ∀ c ∈ (printBehind words ++ rest).head?, Digits.value? 16 c = none := by
  cases words with
  | nil => exact h
  | cons word words =>
      intro c hc
      obtain rfl : ':' = c := by simpa [printBehind] using hc
      decide

/-- Words with colons in front of them are read up to the end.  The induction is on the words, each
of which takes one place of the room that there is. -/
theorem readWords_printBehind {rest : List Char} (hends : Ends rest) {words : List UInt16}
    {room : Nat} (hroom : words.length ≤ room) :
    readWords room false (printBehind words ++ rest) = ⟨words, false, rest⟩ := by
  induction words generalizing room with
  | nil =>
      cases room with
      | zero => rfl
      | succ room =>
          have hipv4 : (after? ':' rest).bind Ipv4.readFront? = none := by
            cases hafter : after? ':' rest with
            | none => rfl
            | some next =>
                rw [Option.bind_some]
                refine Ipv4.readFront?_of_no_dot fun hdot => hends.no_dot ?_
                rw [eq_cons_of_after? hafter]
                exact List.mem_cons_of_mem _ hdot
          simp [readWords, printBehind, hipv4, hends.no_word]
  | cons word words ih =>
      cases room with
      | zero => simp at hroom
      | succ room =>
          have htext : printBehind (word :: words) ++ rest =
              ':' :: (Digits.write 16 word.toNat ++ (printBehind words ++ rest)) := by
            simp [printBehind]
          have hdot : '.' ∉ Digits.write 16 word.toNat ++ (printBehind words ++ rest) := by
            rw [List.mem_append, not_or]
            exact ⟨dot_not_mem_write word, dot_not_mem_printBehind words hends.no_dot⟩
          have hword := readWord?_write word (head?_printBehind words hends.no_digit)
          rw [htext]
          simp [readWords, after?, Ipv4.readFront?_of_no_dot hdot, hword,
            ih (Nat.le_of_succ_le_succ hroom)]

theorem readWords_print {rest : List Char} (hends : Ends rest) {words : List UInt16} {room : Nat}
    (hroom : words.length ≤ room) :
    readWords room true (printWords words ++ rest) = ⟨words, false, rest⟩ := by
  cases room with
  | zero =>
      obtain rfl : words = [] := List.length_eq_zero_iff.mp (Nat.le_zero.mp hroom)
      rfl
  | succ room =>
      cases words with
      | nil =>
          have hprint : printWords [] ++ rest = rest := rfl
          rw [hprint]
          simp [readWords, Ipv4.readFront?_of_no_dot hends.no_dot,
            readWord?_of_head hends.no_digit]
      | cons word words =>
          have hdot : '.' ∉ Digits.write 16 word.toNat ++ (printBehind words ++ rest) := by
            rw [List.mem_append, not_or]
            exact ⟨dot_not_mem_write word, dot_not_mem_printBehind words hends.no_dot⟩
          have hword := readWord?_write word (head?_printBehind words hends.no_digit)
          rw [printWords_cons, List.append_assoc]
          simp [readWords, Ipv4.readFront?_of_no_dot hdot, hword,
            readWords_printBehind hends (Nat.le_of_succ_le_succ hroom)]

/-! ## IPv6 addresses -/

/-- **The longest run of zeros is a run of zeros**, with the words before it and those after it.
The induction is on the words: the longest run is the one that the first word starts, or it is found
among the others. -/
theorem eq_append_of_longestZeroRun {words : List UInt16} {start length : Nat}
    (h : longestZeroRun words = (start, length)) :
    ∃ before after, before.length = start ∧
      words = before ++ (List.replicate length 0 ++ after) := by
  induction words generalizing start length with
  | nil =>
      obtain ⟨rfl, rfl⟩ := by simpa [longestZeroRun] using h
      exact ⟨[], [], rfl, rfl⟩
  | cons word words ih =>
      rcases hrest : longestZeroRun words with ⟨start', length'⟩
      simp only [longestZeroRun, hrest] at h
      by_cases hhere : length' ≤ ((word :: words).takeWhile (· == 0)).length
      · rw [if_pos hhere] at h
        obtain ⟨rfl, rfl⟩ := by simpa using h
        have hzeros : (word :: words).takeWhile (· == 0) =
            List.replicate ((word :: words).takeWhile (· == 0)).length 0 := by
          refine List.eq_replicate_iff.mpr ⟨rfl, fun w hw => ?_⟩
          simpa using List.all_eq_true.mp List.all_takeWhile w hw
        refine ⟨[], (word :: words).dropWhile (· == 0), rfl, ?_⟩
        rw [List.nil_append, ← hzeros, List.takeWhile_append_dropWhile]
      · rw [if_neg hhere] at h
        obtain ⟨rfl, rfl⟩ := by simpa using h
        obtain ⟨before, after, hstart, hwords⟩ := ih hrest
        exact ⟨word :: before, after, by simp [hstart], by rw [List.cons_append, ← hwords]⟩

/-- Words are printed one after another, or without a run of zeros between two stretches.  A single
zero is never left out. -/
theorem printCompressed_cases (words : List UInt16) :
    printCompressed words = printWords words ∨
      ∃ before length after, words = before ++ (List.replicate length 0 ++ after) ∧ 1 < length ∧
        printCompressed words = printWords before ++ (':' :: ':' :: printWords after) := by
  rcases hrun : longestZeroRun words with ⟨start, length⟩
  by_cases hlong : 1 < length
  · obtain ⟨before, after, rfl, hwords⟩ := eq_append_of_longestZeroRun hrun
    refine .inr ⟨before, length, after, hwords, hlong, ?_⟩
    have hafter : words.drop (before.length + length) = after := by
      rw [hwords, ← List.append_assoc]
      exact List.drop_left' (by simp)
    have hbefore : words.take before.length = before := by
      rw [hwords]
      exact List.take_left' rfl
    simp [printCompressed, hrun, hlong, hafter, hbefore]
  · left
    simp [printCompressed, hrun, hlong]

/-- The eight words of an address make that address. -/
theorem ofWords?_words (ip : Ipv6) : ofWords? ip.words = some ip := by
  rw [ofWords?, dif_pos ip.length_words]

/-- Two colons end a stretch of words. -/
theorem ends_colons (words : List UInt16) {rest : List Char} (hends : Ends rest) :
    Ends (':' :: ':' :: (printWords words ++ rest)) := by
  have hdot : '.' ∉ printWords words ++ rest := by
    cases words with
    | nil => exact hends.no_dot
    | cons word words =>
        rw [printWords_cons, List.append_assoc, List.mem_append, not_or]
        exact ⟨dot_not_mem_write word, dot_not_mem_printBehind words hends.no_dot⟩
  have hcolon : ∀ c ∈ (':' :: (printWords words ++ rest)).head?, Digits.value? 16 c = none := by
    intro c hc
    obtain rfl : ':' = c := by simpa using hc
    decide
  refine ⟨by simp [hdot], ?_, ?_⟩
  · intro c hc
    exact hcolon c hc
  · simp [after?, readWord?_of_head hcolon]

/-- An IPv6 address is read as it was printed. -/
theorem readFront?_print {ip : Ipv6} (h : ip.unmap? = none) {rest : List Char}
    (hends : Ends rest) : readFront? (ip.print ++ rest) = some (ip, rest) := by
  have hprint : ip.print = printCompressed ip.words := by simp [print, h]
  rw [hprint]
  rcases printCompressed_cases ip.words with hwhole | ⟨before, length, after, hwords, hlong, htext⟩
  · have hread : readWords 8 true (printWords ip.words ++ rest) = ⟨ip.words, false, rest⟩ :=
      readWords_print hends (Nat.le_of_eq ip.length_words)
    simp [hwhole, readFront?, hread, ip.length_words, ofWords?_words]
  · have hlength : before.length + (length + after.length) = 8 := by
      simpa [hwords] using ip.length_words
    have hbefore :
        readWords 8 true (printWords before ++ ':' :: ':' :: (printWords after ++ rest)) =
          ⟨before, false, ':' :: ':' :: (printWords after ++ rest)⟩ :=
      readWords_print (ends_colons after hends) (by omega)
    have hafter : readWords (7 - before.length) true (printWords after ++ rest) =
        ⟨after, false, rest⟩ :=
      readWords_print hends (by omega)
    have hfew : before.length ≠ 8 := by omega
    have hzeros : 8 - before.length - after.length = length := by omega
    have hip : ofWords? (before ++ (List.replicate length 0 ++ after)) = some ip := by
      rw [← hwords]
      exact ofWords?_words ip
    simp [htext, readFront?, hbefore, hfew, after?, hafter, hzeros, hip]

/-- An IPv6 address that stands for no other is printed in digits and colons. -/
theorem mem_print {ip : Ipv6} (h : ip.unmap? = none) {c : Char} (hc : c ∈ ip.print) :
    Digits.isDigit 16 c ∨ c = ':' := by
  have hword {words : List UInt16} (hc : c ∈ printWords words) : Digits.isDigit 16 c ∨ c = ':' := by
    rcases Text.eq_or_mem_of_mem_join hc with rfl | ⟨part, hpart, hc⟩
    · exact .inr rfl
    · obtain ⟨word, -, rfl⟩ := List.mem_map.mp hpart
      exact .inl (Digits.isDigit_of_mem_write (by decide) (by decide) hc)
  have hprint : ip.print = printCompressed ip.words := by simp [print, h]
  rw [hprint] at hc
  rcases printCompressed_cases ip.words with hwhole | ⟨before, length, after, -, -, htext⟩
  · rw [hwhole] at hc
    exact hword hc
  · rw [htext] at hc
    simp only [List.mem_append, List.mem_cons] at hc
    rcases hc with hc | hc | hc | hc
    · exact hword hc
    · exact .inr hc
    · exact .inr hc
    · exact hword hc

/-! ### Addresses that stand for others -/

/-- The text of an address that stands for an IPv4 one. -/
theorem print_mapped {ip : Ipv6} {inner : Ipv4} (h : ip.unmap? = some inner) :
    ip.print = ':' :: ':' :: 'f' :: 'f' :: 'f' :: 'f' :: ':' :: inner.print := by
  simp [print, h]

/-- No IPv4 address starts with a colon. -/
theorem ipv4_not_of_colon (following : List Char) :
    Ipv4.readFront? (':' :: following) = none := by
  have hoctet : Ipv4.readOctet? (':' :: following) = none := rfl
  simp [Ipv4.readFront?, hoctet]

/-- A word and an IPv4 address are read as three words. -/
theorem readWords_mapped (inner : Ipv4) :
    readWords 7 true ('f' :: 'f' :: 'f' :: 'f' :: ':' :: inner.print) =
      ⟨0xffff :: inner.words, true, []⟩ := by
  have hipv4 : Ipv4.readFront? ('f' :: 'f' :: 'f' :: 'f' :: ':' :: inner.print) = none := by
    have hoctet (following : List Char) : Ipv4.readOctet? ('f' :: following) = none := rfl
    simp [Ipv4.readFront?, hoctet]
  have hword : readWord? ('f' :: 'f' :: 'f' :: 'f' :: ':' :: inner.print) =
      some (0xffff, ':' :: inner.print) := by
    have hcolon : ∀ c ∈ (':' :: inner.print).head?, Digits.value? 16 c = none := by
      intro c hc
      obtain rfl : ':' = c := by simpa using hc
      decide
    exact readWord?_write 0xffff hcolon
  have hinner : Ipv4.readFront? (inner.print ++ []) = some (inner, []) :=
    Ipv4.readFront?_print inner (by simp)
  rw [List.append_nil] at hinner
  simp [readWords, hipv4, hword, after?, hinner]

/-- An address that stands for an IPv4 one is read as it was printed: there is no word in front of
the two colons, and behind them there are one word and the IPv4 address. -/
theorem readFront?_mapped {ip : Ipv6} {inner : Ipv4} (h : ip.unmap? = some inner) :
    readFront? ip.print = some (ip, []) := by
  have hwords : ofWords? (0 :: 0 :: 0 :: 0 :: 0 :: 0xffff :: inner.words) = some ip := by
    have hsame : ip.words = 0 :: 0 :: 0 :: 0 :: 0 :: 0xffff :: inner.words :=
      unmap?_eq_some_iff.mp h
    rw [← hsame]
    exact ofWords?_words ip
  have hlength : inner.words.length = 2 := rfl
  have hempty (following : List Char) :
      readWords 8 true (':' :: following) = ⟨[], false, ':' :: following⟩ := by
    have hword : readWord? (':' :: following) = none := by
      apply readWord?_of_head
      intro c hc
      obtain rfl : ':' = c := by simpa using hc
      decide
    simp [readWords, ipv4_not_of_colon, hword]
  rw [print_mapped h]
  simp [readFront?, hempty, after?, readWords_mapped, hlength, List.replicate, hwords]

end Ipv6

/-! ## Addresses of either family -/

/-- An address that stands for no other is read as it was printed. -/
theorem Ip.read?_print {ip : Ip} (h : ip.canonical = ip) : read? ip.print = some ip := by
  cases ip with
  | v4 ip =>
      have hread : Ipv4.readFront? (ip.print ++ []) = some (ip, []) :=
        Ipv4.readFront?_print ip (by simp)
      rw [List.append_nil] at hread
      simp [read?, readFront?, print, hread]
  | v6 ip =>
      have hunmap := (canonical_eq_v6_iff.mp h).2
      have hread : Ipv6.readFront? (ip.print ++ []) = some (ip, []) :=
        Ipv6.readFront?_print hunmap ⟨by simp, by simp, rfl⟩
      rw [List.append_nil] at hread
      have hipv4 : Ipv4.readFront? ip.print = none := by
        refine Ipv4.readFront?_of_no_dot fun hdot => ?_
        rcases Ipv6.mem_print hunmap hdot with hdigit | hcolon
        · exact absurd hdigit (by decide)
        · exact absurd hcolon (by decide)
      simp [read?, readFront?, print, hipv4, hread]

/-- Any address is read as it was printed, also one that stands for another. -/
theorem Ip.ofText?_text (ip : Ip) : Ip.ofText? ip.text = some ip := by
  rw [ofText?, text, String.toList_ofList]
  by_cases h : ip.canonical = ip
  · exact read?_print h
  · cases ip with
    | v4 ip => exact absurd rfl h
    | v6 ip =>
        cases hunmap : ip.unmap? with
        | none => exact absurd (canonical_eq_v6_iff.mpr ⟨rfl, hunmap⟩) h
        | some inner =>
            have hread : Ipv6.readFront? ip.print = some (ip, []) := Ipv6.readFront?_mapped hunmap
            have hipv4 : Ipv4.readFront? ip.print = none := by
              rw [Ipv6.print_mapped hunmap]
              exact Ipv6.ipv4_not_of_colon _
            simp [read?, readFront?, print, hipv4, hread]

namespace SocketAddress

/-- A port behind a colon is read as it was printed. -/
theorem readPort?_write (port : UInt16) :
    readPort? (':' :: Digits.write 10 port.toNat) = some (port, []) := by
  have hread : portFormat.read? (Digits.write 10 port.toNat ++ []) = some (port.toNat, []) := by
    refine NumeralFormat.read?_write (f := portFormat) (by decide) (by decide) ?_ port.toNat_lt
      (by simp)
    intro k hk
    cases hk
  rw [List.append_nil] at hread
  simp [readPort?, after?, hread]

/-- A port behind an IPv4 address makes a socket address. -/
theorem read?_v4 (ip : Ipv4) (port : UInt16) :
    read? (ip.print ++ ':' :: Digits.write 10 port.toNat) = some (.v4 ip port) := by
  have hfront : Ipv4.readFront? (ip.print ++ ':' :: Digits.write 10 port.toNat) =
      some (ip, ':' :: Digits.write 10 port.toNat) := by
    refine Ipv4.readFront?_print ip fun c hc => ?_
    obtain rfl : ':' = c := by simpa using hc
    decide
  simp [read?, readV4?, hfront, readPort?_write]

/-- A port behind a bracketed IPv6 address makes a socket address. -/
theorem read?_v6 {ip : Ipv6} (h : ip.unmap? = none) (port : UInt16) :
    read? ('[' :: (ip.print ++ ']' :: ':' :: Digits.write 10 port.toNat)) =
      some (.v6 ip port 0 0) := by
  have hport : '.' ∉ Digits.write 10 port.toNat := by
    intro hdot
    exact absurd (Digits.isDigit_of_mem_write (by decide) (by decide) hdot) (by decide)
  have hfront : Ipv6.readFront? (ip.print ++ ']' :: ':' :: Digits.write 10 port.toNat) =
      some (ip, ']' :: ':' :: Digits.write 10 port.toNat) := by
    refine Ipv6.readFront?_print h ⟨by simp [hport], fun c hc => ?_, rfl⟩
    obtain rfl : ']' = c := by simpa using hc
    decide
  have hipv4 (following : List Char) : Ipv4.readFront? ('[' :: following) = none := by
    have hoctet : Ipv4.readOctet? ('[' :: following) = none := rfl
    simp [Ipv4.readFront?, hoctet]
  simp [read?, readV4?, hipv4, readV6?, after?, hfront, readScope, readPort?_write]

end SocketAddress

/-! ## Hosts -/

namespace Host

/-- The host of an address is an IPv4 one if the address stands for that. -/
theorem ofIp_eq_v4_iff {ip : Ip} {inner : Ipv4} : ofIp ip = .v4 inner ↔ ip.StandsFor inner := by
  rw [← Ip.canonical_eq_v4_iff, ofIp]
  cases ip.canonical <;> simp

/-- The host of an address is an IPv6 one if it is that address and stands for no other. -/
theorem ofIp_eq_v6_iff {ip : Ip} {same : Ipv6} :
    ofIp ip = .v6 same ↔ ip = .v6 same ∧ same.unmap? = none := by
  rw [← Ip.canonical_eq_v6_iff, ofIp]
  cases ip.canonical <;> simp

/-- The host of an address is an IPv4 address, or an IPv6 address that stands for no other. -/
theorem ofIp_cases (ip : Ip) :
    (∃ inner, ofIp ip = .v4 inner) ∨ ∃ same, same.unmap? = none ∧ ofIp ip = .v6 same := by
  cases hhost : ofIp ip with
  | v4 inner => exact .inl ⟨inner, rfl⟩
  | v6 same => exact .inr ⟨same, (ofIp_eq_v6_iff.mp hhost).2, rfl⟩
  | domain name => exact absurd hhost (ofIp_ne_domain ip name)

/-- There are no brackets around a text that starts with no bracket. -/
theorem stripBrackets_of_not_mem {text : List Char} (h : '[' ∉ text) :
    stripBrackets text = text := by
  unfold stripBrackets
  split
  · exact absurd List.mem_cons_self h
  · rfl

/-- Brackets around a text are taken off. -/
theorem stripBrackets_bracketed (text : List Char) :
    stripBrackets ('[' :: (text ++ [']'])) = text := by
  simp [stripBrackets]

/-- There are no brackets in an IP literal, so taking brackets off leaves it as it is. -/
theorem stripBrackets_literal {literal : List Char} {ip : Ip} (h : Ip.read? literal = some ip) :
    stripBrackets literal = literal := by
  have hcharacters : ∀ c ∈ literal, Ipv6.IsColoned c := by
    intro c hc
    cases ip with
    | v4 ip =>
        obtain ⟨used, hused, hdotted⟩ := Ipv4.takes_readFront? (Ip.read?_eq_v4_iff.mp h)
        rw [List.append_nil] at hused
        exact .inr (.inl (hdotted c (hused ▸ hc)))
    | v6 ip =>
        obtain ⟨used, hused, hcoloned⟩ := Ipv6.takes_readFront? (Ip.read?_eq_v6_iff.mp h)
        rw [List.append_nil] at hused
        exact hcoloned c (hused ▸ hc)
  apply stripBrackets_of_not_mem
  intro hbracket
  rcases hcharacters '[' hbracket with hdigit | (hdigit | hdot) | hcolon
  · exact absurd hdigit (by decide)
  · exact absurd hdigit (by decide)
  · exact absurd hdot (by decide)
  · exact absurd hcolon (by decide)

/-- A text is read as the host of the IP literal that it is without brackets. -/
theorem read_of_literal {text literal : List Char} {ip : Ip} (hip : Ip.read? literal = some ip)
    (h : stripBrackets text = literal) : read text = .ok (ofIp ip) := by
  unfold read
  simp only [h, hip]

/-- The host of an address has the text of the address it stands for. -/
theorem text_ofIp (ip : Ip) : (ofIp ip).text = ip.canonical.text := by
  unfold ofIp
  cases ip.canonical <;> rfl

/-- The address that an address stands for is the same host. -/
theorem ofIp_canonical (ip : Ip) : ofIp ip.canonical = ofIp ip := by
  rw [ofIp, ofIp, Ip.canonical_canonical]

/-- The host of an address is read from its text. -/
theorem ofText_text (ip : Ip) : ofText (ofIp ip).text = .ok (ofIp ip) := by
  have hprinted := Ip.read?_print ip.canonical_canonical
  rw [ofText, text_ofIp, Ip.text, String.toList_ofList,
    read_of_literal hprinted (stripBrackets_literal hprinted), ofIp_canonical]

/-- The host of an address is read from its text in front of a port. -/
theorem ofText_bracketed (ip : Ip) : ofText (ofIp ip).bracketed = .ok (ofIp ip) := by
  rcases ofIp_cases ip with ⟨inner, hhost⟩ | ⟨same, hunmap, hhost⟩
  · have hsame : (ofIp ip).bracketed = (ofIp ip).text := by
      rw [hhost]
      rfl
    rw [hsame, ofText_text]
  · have htext : (ofIp ip).bracketed.toList = '[' :: ((Ip.v6 same).print ++ [']']) := by
      simp [hhost, bracketed, Ip.text]
    have hcanonical : (Ip.v6 same).canonical = .v6 same :=
      Ip.canonical_eq_v6_iff.mpr ⟨rfl, hunmap⟩
    have hsame : ofIp (.v6 same) = ofIp ip := by
      rw [hhost]
      exact ofIp_eq_v6_iff.mpr ⟨rfl, hunmap⟩
    rw [ofText, htext, read_of_literal (Ip.read?_print hcanonical) (stripBrackets_bracketed _),
      hsame]

end Host

/-- The host of an address and a port are read from their text. -/
theorem Address.ofText_text (ip : Ip) (port : UInt16) :
    ofText (text ⟨Host.ofIp ip, port⟩) = .ok ⟨Host.ofIp ip, port⟩ := by
  rcases Host.ofIp_cases ip with ⟨inner, hhost⟩ | ⟨same, hunmap, hhost⟩
  · have htext : (text ⟨Host.ofIp ip, port⟩).toList =
        inner.print ++ ':' :: Digits.write 10 port.toNat := by
      simp [hhost, text, Host.bracketed, Host.text, Ip.text, Ip.print, Digits.decimal]
    rw [ofText, htext, read, SocketAddress.read?_v4, hhost]
    rfl
  · have htext : (text ⟨Host.ofIp ip, port⟩).toList =
        '[' :: (same.print ++ ']' :: ':' :: Digits.write 10 port.toNat) := by
      simp [hhost, text, Host.bracketed, Ip.text, Ip.print, Digits.decimal]
    have hsame : Host.ofIp (.v6 same) = .v6 same := Host.ofIp_eq_v6_iff.mpr ⟨rfl, hunmap⟩
    rw [ofText, htext, read, SocketAddress.read?_v6 hunmap, hhost]
    simp [ofSocketAddress, SocketAddress.ip, SocketAddress.port, hsame]

/-- **Addresses are read as they are printed.**  The host that an IP address is, the IPv4 address if
it stands for one, is read from its text with and without brackets, and together with a port; alone,
the text is also that of the address.  So no two hosts have one text. -/
theorem Address.ofText_printed (ip : Ip) (port : UInt16) :
    let host := Host.ofIp ip
    Address.ofText (Address.text ⟨host, port⟩) = .ok ⟨host, port⟩ ∧
    Host.ofText host.text = .ok host ∧
    Host.ofText host.bracketed = .ok host ∧
    Ip.ofText? host.text = some ip.canonical ∧
    (∀ inner, host = .v4 inner ↔ ip.StandsFor inner) ∧
    (∀ same, host = .v6 same ↔ ip = .v6 same ∧ same.unmap? = none) ∧
    ∀ other, (Host.ofIp other).text = host.text ↔ Host.ofIp other = host := by
  intro host
  refine ⟨ofText_text ip port, Host.ofText_text ip, Host.ofText_bracketed ip, ?_,
    fun inner => Host.ofIp_eq_v4_iff, fun same => Host.ofIp_eq_v6_iff, fun other => ?_⟩
  · rw [Host.text_ofIp, Ip.ofText?, Ip.text, String.toList_ofList]
    exact Ip.read?_print ip.canonical_canonical
  · constructor
    · intro htext
      have hother := Host.ofText_text other
      rw [htext, Host.ofText_text ip] at hother
      exact (Except.ok.inj hother).symm
    · exact congrArg Host.text

end RelayRoute
