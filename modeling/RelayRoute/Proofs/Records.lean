import RelayRoute.Proofs.Preference
import RelayRoute.Proofs.SameTarget

/-!
# The record that is taken

Where IPv4 is preferred, a host is looked up once and one of its records is taken.  Which one it is
depends on the IPv4 records alone, if there are any: those that are IPv4 addresses or stand for one.
A record that is neither changes nothing, wherever it stands in the answer.

* `Ip.ipv4Records` — the IPv4 records of an answer, in their order;
* `Ip.preferV4_eq`, `Ip.preferV4_congr_ipv4` — what is taken is the first of these, so that answers
  with the same IPv4 records come to the same;
* `Ip.Taken`, `Ip.taken_preferV4` — all that is known of the address that is taken;
* `Environment.chosen`, `resolvePreferred_eq_chosen` — what comes of looking a host up depends on
  the answer alone;
* `Environment.takes_one_record` — the main result.
-/

namespace RelayRoute

namespace Ip

variable {first other ip : Ip} {records others more before after : List Ip}

/-! ## The IPv4 records -/

/-- The records that are IPv4 addresses or stand for one, in their order. -/
def ipv4Records (records : List Ip) : List Ip :=
  records.filter fun ip => ip.canonical.isV4

/-- The IPv4 records are those that stand for an IPv4 address. -/
@[simp] theorem mem_ipv4Records :
    ip ∈ ipv4Records records ↔ ip ∈ records ∧ ∃ inner, ip.StandsFor inner := by
  rw [ipv4Records, List.mem_filter, isV4_canonical_iff]

/-- There is no IPv4 record if no record stands for an IPv4 address. -/
theorem ipv4Records_eq_nil_iff :
    ipv4Records records = [] ↔ ∀ ip ∈ records, ∀ inner, ¬ ip.StandsFor inner := by
  simp [List.eq_nil_iff_forall_not_mem]

/-- The first IPv4 record is the first record that stands for an IPv4 address. -/
theorem head?_ipv4Records {inner : Ipv4} (order : records = before ++ ip :: after)
    (stands : ip.StandsFor inner)
    (none_before : ∀ other ∈ before, ∀ inner, ¬ other.StandsFor inner) :
    (ipv4Records records).head? = some ip := by
  have hbefore : before.filter (fun ip => ip.canonical.isV4) = [] :=
    ipv4Records_eq_nil_iff.mpr none_before
  have hv4 : ip.canonical.isV4 = true := isV4_canonical_iff.mpr ⟨inner, stands⟩
  rw [order, ipv4Records, List.filter_append, hbefore, List.nil_append]
  simp [hv4]

/-! ## The choice -/

/-- What is taken is the first IPv4 record, or the first record if there is none, turned into an
IPv4 address if it stands for one. -/
theorem preferV4_eq (first : Ip) (others : List Ip) :
    first.preferV4 others = ((ipv4Records (first :: others)).head?.getD first).canonical := by
  rw [preferV4, List.find?_map, ipv4Records, List.head?_filter]
  show (((first :: others).find? fun ip => ip.canonical.isV4).map canonical).getD
    first.canonical = _
  cases (first :: others).find? fun ip => ip.canonical.isV4 <;> rfl

/-- Of two answers with the same IPv4 records the same one is taken, if there are any.  The others
may be different ones, and may stand anywhere. -/
theorem preferV4_congr_ipv4 (same : ipv4Records (first :: others) = ipv4Records (other :: more))
    (some_ipv4 : ipv4Records (first :: others) ≠ []) :
    first.preferV4 others = other.preferV4 more := by
  obtain ⟨ip, rest, hrecords⟩ := List.exists_cons_of_ne_nil some_ipv4
  rw [preferV4_eq, preferV4_eq, ← same, hrecords]
  rfl

/-- What is known of the address that is taken of the records of a host. -/
structure Taken (records : List Ip) (ip : Ip) : Prop where
  /-- It stands for no other address. -/
  canonical : ip.canonical = ip
  /-- It is a record, or what a record stands for. -/
  of_record : ∃ record ∈ records, ip = record.canonical
  /-- It is an IPv4 address if there is an IPv4 record. -/
  isV4_iff : ip.isV4 = true ↔ ∃ record ∈ records, ∃ inner, record.StandsFor inner
  /-- Then it is what the first IPv4 record stands for. -/
  first_ipv4 : ∀ before record after inner, records = before ++ record :: after →
    record.StandsFor inner → (∀ other ∈ before, ∀ inner, ¬ other.StandsFor inner) →
    ip = .v4 inner
  /-- Otherwise it is the first record as it is. -/
  none_ipv4 : (∀ record ∈ records, ∀ inner, ¬ record.StandsFor inner) → records.head? = some ip

/-- The choice is one of the records, and it is the right one.  Either there is an IPv4 record and
the first such is taken, or the first record is, which then stands for no other address. -/
theorem taken_preferV4 (first : Ip) (others : List Ip) :
    Taken (first :: others) (first.preferV4 others) := by
  have hchoice := preferV4_eq first others
  have hnone (h : ∀ record ∈ first :: others, ∀ inner, ¬ record.StandsFor inner) :
      first.preferV4 others = first := by
    rw [hchoice, ipv4Records_eq_nil_iff.mpr h]
    cases hfirst : first.canonical with
    | v4 inner => exact absurd (canonical_eq_v4_iff.mp hfirst) (h first List.mem_cons_self inner)
    | v6 same => exact hfirst.trans (canonical_eq_v6_iff.mp hfirst).1.symm
  have hrecord : ∃ record ∈ first :: others, first.preferV4 others = record.canonical := by
    cases hfound : ipv4Records (first :: others) with
    | nil => exact ⟨first, List.mem_cons_self, by rw [hchoice, hfound]; rfl⟩
    | cons record rest =>
        have hmem : record ∈ ipv4Records (first :: others) := hfound ▸ List.mem_cons_self
        exact ⟨record, (mem_ipv4Records.mp hmem).1, by rw [hchoice, hfound]; rfl⟩
  refine ⟨?_, hrecord, ?_, ?_, ?_⟩
  · obtain ⟨record, -, hsame⟩ := hrecord
    rw [hsame, canonical_canonical]
  · constructor
    · intro hv4
      obtain ⟨record, hmem, hsame⟩ := hrecord
      exact ⟨record, hmem, isV4_canonical_iff.mp (hsame ▸ hv4)⟩
    · intro ⟨record, hmem, hstands⟩
      obtain ⟨ip, rest, hfound⟩ :=
        List.exists_cons_of_ne_nil (List.ne_nil_of_mem (mem_ipv4Records.mpr ⟨hmem, hstands⟩))
      have hip : ip ∈ ipv4Records (first :: others) := hfound ▸ List.mem_cons_self
      rw [hchoice, hfound]
      exact isV4_canonical_iff.mpr (mem_ipv4Records.mp hip).2
  · intro before record after inner order stands none_before
    rw [hchoice, head?_ipv4Records order stands none_before]
    exact canonical_eq_v4_iff.mpr stands
  · intro h
    rw [hnone h, List.head?_cons]

end Ip

/-! ## Lookups -/

namespace Environment

variable {ω τ π ρ ν : Type} (env : Environment ω τ π ρ) (note : τ → ω → ν)

/-- What comes of an answer to looking a host up where IPv4 is preferred. -/
def chosen (host : String) : Ending IoFault (List Ip) → Ending Failure Ip
  | .done (first :: others) => .done (first.preferV4 others)
  | .done [] | .failed _ => .failed (.hostUnresolvable host)
  | .abandoned => .abandoned

/-- A host is unresolvable if it cannot be looked up or has no record. -/
theorem chosen_eq_unresolvable_iff {host : String} {answer : Ending IoFault (List Ip)} :
    chosen host answer = .failed (.hostUnresolvable host) ↔
      answer = .done [] ∨ ∃ fault, answer = .failed fault := by
  unfold chosen
  split <;> simp

theorem failure_of_chosen {host : String} {answer : Ending IoFault (List Ip)} {failure : Failure}
    (h : chosen host answer = .failed failure) : failure = .hostUnresolvable host := by
  unfold chosen at h
  split at h <;> cases h <;> rfl

/-- A resolution is abandoned in its lookup. -/
theorem chosen_eq_abandoned_iff {host : String} {answer : Ending IoFault (List Ip)} :
    chosen host answer = .abandoned ↔ answer = .abandoned := by
  unfold chosen
  split <;> simp

/-- Answers with the same IPv4 records come to the same, if there are any. -/
theorem chosen_congr_ipv4 {host : String} {records others : List Ip}
    (same : Ip.ipv4Records records = Ip.ipv4Records others)
    (some_ipv4 : Ip.ipv4Records records ≠ []) :
    chosen host (.done records) = chosen host (.done others) := by
  cases records with
  | nil => exact absurd rfl some_ipv4
  | cons first more =>
      cases others with
      | nil => exact absurd same some_ipv4
      | cons other rest => rw [chosen, chosen, Ip.preferV4_congr_ipv4 same some_ipv4]

/-- What comes of looking a host up depends on the answer alone, so it is the same with a ledger as
without one. -/
theorem resolvePreferred_eq_chosen (resolver : ρ) (host : String) (world : ω) :
    (env.resolvePreferred resolver host world).1 =
      chosen host (env.lookup resolver host world).1 := by
  rcases hfound : env.lookup resolver host world with ⟨answer, later⟩
  simp only [resolvePreferred, records, hfound]
  cases answer with
  | done found => cases found <;> rfl
  | failed fault => rfl
  | abandoned => rfl

theorem resolvePreferred_calls (resolver : ρ) (host : String) (ledger : Ledger ω ν) :
    ((env.recorded note).resolvePreferred resolver host ledger).2.calls =
      ledger.calls ++ [.lookup host (env.lookup resolver host ledger.world).1] := by
  rcases hfound : env.lookup resolver host ledger.world with ⟨answer, world⟩
  have hlookup := env.lookup_recorded note hfound
  have hentered := ledger.calls_enter (.lookup host answer) none none world
  simp only [resolvePreferred, records, hlookup]
  cases answer with
  | done found => cases found <;> exact hentered
  | failed fault => exact (Ledger.calls_write _ _ _).trans hentered
  | abandoned => exact hentered

/-- **One record is taken of the answer to one lookup.**  A host is looked up once, by its text.  It
is unresolvable if the lookup fails or there is no record, and there is no other failure; with a
record, an address is taken that is what `Ip.Taken` says.  Two answers with the same IPv4 records
come to the same, whatever IPv6 records there are besides and wherever they stand, and an IPv4
address stays what it is when it is itself looked up by a resolver that knows IPv4 literals. -/
theorem takes_one_record {resolver : ρ} {host : String} {ledger later : Ledger ω ν}
    {ending : Ending Failure Ip} {answer : Ending IoFault (List Ip)}
    (hanswer : (env.lookup resolver host ledger.world).1 = answer)
    (hresolved : (env.recorded note).resolvePreferred resolver host ledger = (ending, later)) :
    later.calls = ledger.calls ++ [.lookup host answer] ∧
    (ending = .failed (.hostUnresolvable host) ↔
      answer = .done [] ∨ ∃ fault, answer = .failed fault) ∧
    (∀ failure, ending = .failed failure → failure = .hostUnresolvable host) ∧
    (ending = .abandoned ↔ answer = .abandoned) ∧
    (∀ records, answer = .done records → records ≠ [] →
      ∃ ip, ending = .done ip ∧ Ip.Taken records ip) ∧
    (∀ (resolver' : ρ) (ledger' : Ledger ω ν) records others, answer = .done records →
      (env.lookup resolver' host ledger'.world).1 = .done others →
      Ip.ipv4Records records = Ip.ipv4Records others → Ip.ipv4Records records ≠ [] →
      ((env.recorded note).resolvePreferred resolver' host ledger').1 = ending) ∧
    ∀ (resolver' : ρ) (ledger' : Ledger ω ν) ip, ending = .done ip → ip.isV4 = true →
      (∀ (inner : Ipv4) world,
        (env.lookup resolver' (Ip.v4 inner).text world).1 = .done [.v4 inner]) →
      ((env.recorded note).resolveIp resolver' ip ledger').1 = .done ip := by
  have hchosen (resolver' : ρ) (host' : String) (ledger' : Ledger ω ν) :
      ((env.recorded note).resolvePreferred resolver' host' ledger').1 =
        chosen host' (env.lookup resolver' host' ledger'.world).1 :=
    (env.recorded note).resolvePreferred_eq_chosen resolver' host' ledger'
  have hcalls := env.resolvePreferred_calls note resolver host ledger
  have hending := hchosen resolver host ledger
  rw [hresolved, hanswer] at hcalls hending
  change ending = chosen host answer at hending
  refine ⟨hcalls, ?_, ?_, ?_, ?_, ?_, ?_⟩
  · rw [hending]
    exact chosen_eq_unresolvable_iff
  · intro failure hfailed
    exact failure_of_chosen (hending.symm.trans hfailed)
  · rw [hending]
    exact chosen_eq_abandoned_iff
  · intro records hrecords hsome
    obtain ⟨first, others, rfl⟩ := List.exists_cons_of_ne_nil hsome
    refine ⟨first.preferV4 others, ?_, Ip.taken_preferV4 first others⟩
    rw [hending, hrecords, chosen]
  · intro resolver' ledger' records others hrecords hother hsame hsome
    calc ((env.recorded note).resolvePreferred resolver' host ledger').1
        = chosen host (.done others) := by rw [hchosen, hother]
      _ = chosen host (.done records) := (chosen_congr_ipv4 hsame hsome).symm
      _ = ending := by rw [hending, hrecords]
  · intro resolver' ledger' ip hdone hv4 hliterals
    cases ip with
    | v6 same => cases hv4
    | v4 inner =>
        calc ((env.recorded note).resolveIp resolver' (.v4 inner) ledger').1
            = chosen (Ip.v4 inner).text (.done [.v4 inner]) := by
              rw [resolveIp, hchosen, hliterals]
          _ = .done (.v4 inner) := rfl

/-- The second of three records stands for an IPv4 address, and that is taken.  It is taken, too,
where the IPv6 record comes last and another one is added, and it is its own record. -/
theorem takes_mapped_of_three :
    let env := Scripted.environment.recorded fun _ _ => ()
    let mapped : Ip := .v6 ⟨[0, 0, 0, 0, 0, 0xffff, 0xc633, 0x6407], rfl⟩
    let pure : Ip := .v6 ⟨[0x2001, 0xdb8, 0, 0, 0, 0, 0, 1], rfl⟩
    let later : Ip := .v4 ⟨192, 0, 2, 9⟩
    let taken : Ip := .v4 ⟨198, 51, 100, 7⟩
    let listed (records : List Ip) := Scripted.Resolver.listed [("example.org", .ok records)]
    (env.resolvePreferred (listed [pure, mapped, later]) "example.org" (.start {})).1 =
        .done taken ∧
      Ip.Taken [pure, mapped, later] taken ∧
      (env.resolvePreferred (listed [mapped, pure, later, pure]) "example.org" (.start {})).1 =
        .done taken ∧
      (env.resolveIp .system taken (.start {})).1 = .done taken := by
  intro env mapped pure later taken listed
  rcases hresolved : env.resolvePreferred (listed [pure, mapped, later]) "example.org" (.start {})
    with ⟨ending, ledger⟩
  have htaken : ending = .done taken := by
    have hsame := congrArg Prod.fst hresolved
    exact hsame.symm.trans rfl
  obtain ⟨-, -, -, -, hrecord, hstable, hagain⟩ :=
    takes_one_record Scripted.environment (fun _ _ => ()) rfl hresolved
  obtain ⟨ip, hip, hfound⟩ := hrecord [pure, mapped, later] rfl (by decide)
  obtain rfl : ip = taken := Ending.done.inj (hip.symm.trans htaken)
  refine ⟨htaken, hfound, ?_, ?_⟩
  · rw [← htaken]
    exact hstable (listed [mapped, pure, later, pure]) (.start {}) _ _ rfl rfl (by decide)
      (by decide)
  · refine hagain .system (.start {}) taken htaken rfl fun inner stage => ?_
    have hread : Ip.ofText? (Ip.v4 inner).text = some (.v4 inner) := by
      rw [Ip.ofText?, Ip.text, String.toList_ofList]
      exact Ip.read?_print rfl
    exact congrArg Prod.fst (Scripted.Resolver.lookup_literal hread stage)

end Environment

end RelayRoute
