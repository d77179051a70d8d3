/-
The inbox over whole runs: any deliveries, in any order and from any producers. The ledger verifies after every run and
counts what was accepted; a call that raises leaves the store alone; a duplicate repeats an earlier delivery.

The two event keys (of a producer, of a tenant) stand in one dictionary and the ledger has neither: a tenant's ledger
names an event once exactly when no delivery arrives that is new under its keys and old in the ledger.
-/
import Middleware.Data.Canonical
import Middleware.Events.Storage
import Middleware.Lib.Chain
import Middleware.Ledger.Effects

namespace Middleware.Events

open Ledger (Dict orElse)
open Ledger.MemoryCommandStore (lookup_insert_ite)
open Lib MemoryInboxStore

/-! ## The chains of the ledger -/

/-- A record after `n - 1` others of its tenant whose last hash is `p`. -/
structure Binds (p : String) (n : Nat) (r : EventLedgerRecord) : Prop where
  sequence : r.tenantSequence = n
  previous : r.previousEntryHash = p
  payload : canonicalPayloadSha256 r.payload = r.semanticSha256
  entry : r.entryHash = eventLedgerHash r.tenantId r.tenantSequence r.eventId r.semanticSha256 r.previousEntryHash

abbrev ofTenant (t : String) (l : List EventLedgerRecord) : List EventLedgerRecord := under (·.tenantId) t l

/-- Every tenant's records are a chain. -/
def Chained (l : List EventLedgerRecord) : Prop :=
  ∀ t, Linked (·.entryHash) Binds zeroLedgerHash 1 (ofTenant t l)

/-- What the dictionaries of the verifier hold after the records `done`. -/
structure Summary (done : List EventLedgerRecord) (heads : LedgerHeads) : Prop where
  expected : ∀ t, (heads.expectedSequence.lookup t).getD 1 = 1 + (ofTenant t done).length
  previous : ∀ t, (heads.previousHash.lookup t).getD zeroLedgerHash = lastHash (·.entryHash) zeroLedgerHash (ofTenant t done)
  counts : ∀ t, heads.counts.lookup t = if (ofTenant t done).length = 0 then none else some (ofTenant t done).length

theorem Summary.empty : Summary [] {} := ⟨fun _ => rfl, fun _ => rfl, fun _ => rfl⟩

section Verify

variable {done : List EventLedgerRecord} {heads : LedgerHeads} {r : EventLedgerRecord}

theorem Summary.count (h : Summary done heads) (t : String) : (heads.counts.lookup t).getD 0 = (ofTenant t done).length := by
  rw [h.counts]
  split
  · rename_i h0
    rw [h0]
    rfl
  · rfl

theorem Summary.advance (h : Summary done heads) (r : EventLedgerRecord) : Summary (done ++ [r]) (heads.advance r) := by
  have hself : ofTenant r.tenantId (done ++ [r]) = ofTenant r.tenantId done ++ [r] := under_concat_self _ done r
  have hother : ∀ t, t ≠ r.tenantId → ofTenant t (done ++ [r]) = ofTenant t done := fun t ht =>
    under_concat_ne fun h => ht h.symm
  refine ⟨fun t => ?_, fun t => ?_, fun t => ?_⟩
  · rw [LedgerHeads.advance, lookup_insert_ite]
    by_cases ht : t = r.tenantId
    · subst ht
      rw [if_pos rfl, hself, h.expected, List.length_append, List.length_singleton, Option.getD_some]
      omega
    · rw [if_neg ht, hother t ht]
      exact h.expected t
  · rw [LedgerHeads.advance, lookup_insert_ite]
    by_cases ht : t = r.tenantId
    · subst ht
      rw [if_pos rfl, hself, lastHash_concat]
      rfl
    · rw [if_neg ht, hother t ht]
      exact h.previous t
  · rw [LedgerHeads.advance, lookup_insert_ite]
    by_cases ht : t = r.tenantId
    · subst ht
      rw [if_pos rfl, hself, h.count, List.length_append, List.length_singleton, if_neg (by omega)]
    · rw [if_neg ht, hother t ht]
      exact h.counts t

/-- A record that is bound to what was verified before it passes. -/
theorem verifyRecord_ok (h : Summary done heads) (hr : Binds
    (lastHash (·.entryHash) zeroLedgerHash (ofTenant r.tenantId done)) (1 + (ofTenant r.tenantId done).length) r) :
    verifyRecord heads r = .ok (heads.advance r) := by
  have hsequence : r.tenantSequence = (heads.expectedSequence.lookup r.tenantId).getD 1 := by rw [h.expected, hr.sequence]
  have hprevious : r.previousEntryHash = (heads.previousHash.lookup r.tenantId).getD zeroLedgerHash := by
    rw [h.previous, hr.previous]
  unfold verifyRecord
  rw [if_neg (not_not.2 hsequence), if_neg (not_not.2 hprevious), if_neg (not_not.2 hr.payload), if_neg (not_not.2 hr.entry)]

/-- By induction on the records still to verify. -/
theorem verifyFrom_ok : ∀ {rest done : List EventLedgerRecord} {heads : LedgerHeads}, Summary done heads →
    Chained (done ++ rest) → ∃ heads', verifyFrom heads rest = .ok heads' ∧ Summary (done ++ rest) heads'
  | [], done, heads, h, _ => ⟨heads, rfl, by rwa [List.append_nil]⟩
  | r :: rest, done, heads, h, hc => by
    have hok := verifyRecord_ok h (linked_at (hc r.tenantId))
    have hcons : done ++ r :: rest = (done ++ [r]) ++ rest := by simp
    rw [hcons] at hc ⊢
    obtain ⟨heads', hok', hsum⟩ := verifyFrom_ok (h.advance r) hc
    exact ⟨heads', by rw [verifyFrom, hok]; exact hok', hsum⟩

/-- The records of a tenant are already in the order of the verifier. -/
theorem Chained.sorted {l : List EventLedgerRecord} (h : Chained l) (t : String) :
    (ofTenant t l).Pairwise EventLedgerRecord.le := by
  have hnum := (h t).numbers (·.tenantSequence) fun hb => hb.sequence
  have hlt : ((ofTenant t l).map (·.tenantSequence)).Pairwise (· < ·) := by
    rw [hnum, List.pairwise_map]
    exact List.pairwise_lt_range.imp fun h => by omega
  rw [List.pairwise_map] at hlt
  refine List.Pairwise.imp_of_mem (fun {r r'} hr hr' hl => ?_) hlt
  have ht : r.tenantId = t := of_decide_eq_true (List.mem_filter.1 hr).2
  have ht' : r'.tenantId = t := of_decide_eq_true (List.mem_filter.1 hr').2
  exact .inr ⟨ht.trans ht'.symm, le_of_lt hl⟩

theorem verify_ok {l : List EventLedgerRecord} (h : Chained l) : ∃ counts, verifyEventLedgerRecords l = .ok counts ∧
    ∀ t, counts.lookup t = if (ofTenant t l).length = 0 then none else some (ofTenant t l).length := by
  have hsame : ∀ t, ofTenant t (l.insertionSort EventLedgerRecord.le) = ofTenant t l := fun t =>
    filter_insertionSort _ (h.sorted t)
  have hsorted : Chained ([] ++ l.insertionSort EventLedgerRecord.le) := fun t => by
    rw [List.nil_append, hsame]
    exact h t
  obtain ⟨heads, hok, hsum⟩ := verifyFrom_ok Summary.empty hsorted
  refine ⟨heads.counts, by rw [verifyEventLedgerRecords, hok], fun t => ?_⟩
  rw [hsum.counts, List.nil_append, hsame]

end Verify

/-! ## What a delivery does -/

/-- A delivery whose digest is right and whose two keys are new. -/
structure New (d : Delivery) (s : MemoryInboxStore) : Prop where
  digest : canonicalPayloadSha256 d.envelope.modelDump = d.semanticSha256
  event : s.eventItems.lookup d.eventKey = none
  idempotency : s.idempotencyItems.lookup d.idempotencyKey = none

/-- A delivery raises and changes nothing, repeats an item and changes nothing, or is new and admitted. -/
theorem accept_cases (d : Delivery) (s : MemoryInboxStore) : (∃ e, accept d s = (.error e, s)) ∨
    (∃ comparison result, existing d s = some (comparison, result) ∧ comparison = d.comparisonSha256 ∧
      canonicalPayloadSha256 d.envelope.modelDump = d.semanticSha256 ∧
      accept d s = (.ok { result with status := .duplicate, duplicate := true }, s)) ∨
    (New d s ∧ accept d s = (.ok d.result, admitted d s)) := by
  unfold accept
  split
  · exact .inl ⟨_, rfl⟩
  · rename_i hdigest
    split
    · exact .inl ⟨_, rfl⟩
    · split
      · rename_i comparison result hexisting
        split
        · exact .inl ⟨_, rfl⟩
        · rename_i hsame
          exact .inr (.inl ⟨comparison, result, hexisting, not_not.1 hsame, not_not.1 hdigest, rfl⟩)
      · rename_i hnone
        rw [existing, Option.orElse_eq_none] at hnone
        exact .inr (.inr ⟨⟨not_not.1 hdigest, hnone.1, hnone.2⟩, rfl⟩)

theorem New.accepted {d : Delivery} {s : MemoryInboxStore} (h : New d s) : accept d s = (.ok d.result, admitted d s) := by
  unfold accept
  rw [if_neg (not_not.2 h.digest), if_neg, existing, h.event, h.idempotency]
  · rfl
  · simp [mixedIdentities, h.event]

/-! ## Runs -/

def inbox (ds : List Delivery) : MemoryInboxStore := ds.foldl (fun s d => (accept d s).2) {}

def answersFrom (s : MemoryInboxStore) : List Delivery → List (Delivery × Except StorageError IngressResult)
  | [] => []
  | d :: ds => (d, (accept d s).1) :: answersFrom (accept d s).2 ds

def isAccepted (t : String) (a : Delivery × Except StorageError IngressResult) : Bool :=
  match a.2 with
  | .ok result => !result.duplicate && a.1.envelope.tenantId == t
  | .error _ => false

/-- The events of a tenant that were accepted and were no duplicates. -/
def acceptedOf (t : String) (ds : List Delivery) : Nat := (answersFrom {} ds).countP (isAccepted t)

theorem inbox_concat (ds : List Delivery) (d : Delivery) : inbox (ds ++ [d]) = (accept d (inbox ds)).2 := by
  simp [inbox, List.foldl_append]

theorem answersFrom_concat (ds : List Delivery) (d : Delivery) (s : MemoryInboxStore) :
    answersFrom s (ds ++ [d]) = answersFrom s ds ++ [(d, (accept d (ds.foldl (fun s d => (accept d s).2) s)).1)] := by
  induction ds generalizing s with
  | nil => rfl
  | cons x ds ih => rw [List.cons_append, answersFrom, ih, answersFrom, List.cons_append, List.foldl_cons]

theorem acceptedOf_concat (t : String) (ds : List Delivery) (d : Delivery) : acceptedOf t (ds ++ [d]) =
    acceptedOf t ds + if isAccepted t (d, (accept d (inbox ds)).1) then 1 else 0 := by
  rw [acceptedOf, answersFrom_concat, List.countP_append, List.countP_singleton]
  rfl

/-- The invariant of every run: chains that the heads and counts describe, an item for every key in the ledger, and
for every item the delivery it came from. -/
structure Ledgered (ds : List Delivery) : Prop where
  chained : Chained (inbox ds).ledgerRecords
  counts : ∀ t, ((inbox ds).ledgerCounts.lookup t).getD 0 = (ofTenant t (inbox ds).ledgerRecords).length
  heads : ∀ t, ((inbox ds).ledgerHeads.lookup t).getD zeroLedgerHash =
    lastHash (·.entryHash) zeroLedgerHash (ofTenant t (inbox ds).ledgerRecords)
  accepted : ∀ t, acceptedOf t ds = (ofTenant t (inbox ds).ledgerRecords).length

theorem admitted_records (d : Delivery) (s : MemoryInboxStore) :
    (admitted d s).ledgerRecords = s.ledgerRecords ++ [record d s] := rfl

theorem admitted_heads (d : Delivery) (s : MemoryInboxStore) :
    (admitted d s).ledgerHeads = s.ledgerHeads.insert d.envelope.tenantId (record d s).entryHash := rfl

theorem admitted_counts (d : Delivery) (s : MemoryInboxStore) : (admitted d s).ledgerCounts =
    s.ledgerCounts.insert d.envelope.tenantId (s.nextSequence d.envelope.tenantId) := rfl

section Run

variable {ds : List Delivery} {d : Delivery} {t : String}

theorem inbox_step (ds : List Delivery) (d : Delivery) :
    (inbox (ds ++ [d]) = inbox ds ∧ ∀ t, acceptedOf t (ds ++ [d]) = acceptedOf t ds) ∨
    (New d (inbox ds) ∧ inbox (ds ++ [d]) = admitted d (inbox ds) ∧
      ∀ t, acceptedOf t (ds ++ [d]) = acceptedOf t ds + if d.envelope.tenantId = t then 1 else 0) := by
  simp only [inbox_concat, acceptedOf_concat]
  rcases accept_cases d (inbox ds) with ⟨e, h⟩ | ⟨_, result, -, -, -, h⟩ | ⟨hnew, h⟩
  · rw [h]
    exact .inl ⟨rfl, fun t => rfl⟩
  · rw [h]
    exact .inl ⟨rfl, fun t => rfl⟩
  · rw [h]
    refine .inr ⟨hnew, rfl, fun t => ?_⟩
    simp [isAccepted, Delivery.result]

/-- The record of a new delivery is bound to its tenant's chain. -/
theorem Ledgered.binds (h : Ledgered ds) (hnew : New d (inbox ds)) :
    Binds (lastHash (·.entryHash) zeroLedgerHash (ofTenant d.envelope.tenantId (inbox ds).ledgerRecords))
      (1 + (ofTenant d.envelope.tenantId (inbox ds).ledgerRecords).length) (record d (inbox ds)) := by
  refine ⟨?_, h.heads _, hnew.digest, rfl⟩
  show (inbox ds).nextSequence d.envelope.tenantId = _
  rw [nextSequence, h.counts]
  omega

theorem ledgered (ds : List Delivery) : Ledgered ds := by
  induction ds using List.reverseRecOn with
  | nil => exact ⟨fun _ => trivial, fun _ => rfl, fun _ => rfl, fun _ => rfl⟩
  | append_singleton ds d ih =>
    rcases inbox_step ds d with ⟨h, hcount⟩ | ⟨hnew, h, hcount⟩
    · refine ⟨?_, ?_, ?_, ?_⟩
      · rw [h]; exact ih.chained
      · rw [h]; exact ih.counts
      · rw [h]; exact ih.heads
      · intro t
        rw [h, hcount]
        exact ih.accepted t
    · have hself : ofTenant d.envelope.tenantId (admitted d (inbox ds)).ledgerRecords =
          ofTenant d.envelope.tenantId (inbox ds).ledgerRecords ++ [record d (inbox ds)] :=
        under_concat_self (·.tenantId) _ (record d (inbox ds))
      have hother : ∀ t, t ≠ d.envelope.tenantId →
          ofTenant t (admitted d (inbox ds)).ledgerRecords = ofTenant t (inbox ds).ledgerRecords :=
        fun t ht => under_concat_ne fun h => ht h.symm
      refine ⟨fun t => ?_, fun t => ?_, fun t => ?_, fun t => ?_⟩
      · rw [h]
        by_cases ht : t = d.envelope.tenantId
        · subst ht
          rw [hself, linked_concat]
          exact ⟨ih.chained _, ih.binds hnew⟩
        · rw [hother t ht]
          exact ih.chained t
      · rw [h, admitted_counts, lookup_insert_ite]
        by_cases ht : t = d.envelope.tenantId
        · subst ht
          have hlen := ih.counts d.envelope.tenantId
          rw [if_pos rfl, Option.getD_some, nextSequence, hlen, hself, List.length_append, List.length_singleton]
        · rw [if_neg ht, hother t ht]
          exact ih.counts t
      · rw [h, admitted_heads, lookup_insert_ite]
        by_cases ht : t = d.envelope.tenantId
        · subst ht
          rw [if_pos rfl, hself, lastHash_concat]
          rfl
        · rw [if_neg ht, hother t ht]
          exact ih.heads t
      · rw [h, hcount, ih.accepted t]
        by_cases ht : t = d.envelope.tenantId
        · subst ht
          rw [if_pos rfl, hself, List.length_append, List.length_singleton]
        · rw [if_neg fun h => ht h.symm, hother t ht, Nat.add_zero]

/-! ### Where items and records come from -/

/-- A delivery of the run that was new when it arrived. -/
def Admits (ds : List Delivery) (d : Delivery) : Prop := ∃ done rest, ds = done ++ d :: rest ∧ New d (inbox done)

theorem Admits.concat {x : Delivery} (h : Admits ds d) : Admits (ds ++ [x]) d := by
  obtain ⟨done, rest, rfl, hnew⟩ := h
  exact ⟨done, rest ++ [x], by simp, hnew⟩

theorem item_source (ds : List Delivery) : ∀ {key : String × String} {item : String × IngressResult},
    ((inbox ds).eventItems.lookup key = some item → ∃ d, Admits ds d ∧ d.eventKey = key ∧
      item = (d.comparisonSha256, d.result)) ∧
    ((inbox ds).idempotencyItems.lookup key = some item → ∃ d, Admits ds d ∧ d.idempotencyKey = key ∧
      item = (d.comparisonSha256, d.result)) := by
  induction ds using List.reverseRecOn with
  | nil =>
    intro key item
    exact ⟨fun h => (by cases h), fun h => (by cases h)⟩
  | append_singleton ds x ih =>
    intro key item
    have hold : ∀ {P : Delivery → Prop}, (∃ d, Admits ds d ∧ P d) → ∃ d, Admits (ds ++ [x]) d ∧ P d :=
      fun ⟨d, hd, hP⟩ => ⟨d, hd.concat, hP⟩
    rcases inbox_step ds x with ⟨h, -⟩ | ⟨hnew, h, -⟩
    · rw [h]
      exact ⟨fun hl => hold (ih.1 hl), fun hl => hold (ih.2 hl)⟩
    · have hx : Admits (ds ++ [x]) x := ⟨ds, [], rfl, hnew⟩
      rw [h]
      simp only [admitted, lookup_insert_ite]
      refine ⟨fun hl => ?_, fun hl => ?_⟩
      · split at hl
        · rename_i hk
          exact ⟨x, hx, hk.symm, (Option.some.inj hl).symm⟩
        · exact hold (ih.1 hl)
      · split at hl
        · rename_i hk
          exact ⟨x, hx, hk.symm, (Option.some.inj hl).symm⟩
        · exact hold (ih.2 hl)

theorem existing_source {item : String × IngressResult} (h : existing d (inbox ds) = some item) :
    ∃ d₀, Admits ds d₀ ∧ item = (d₀.comparisonSha256, d₀.result) := by
  rw [existing] at h
  cases hevent : (inbox ds).eventItems.lookup d.eventKey with
  | some byEvent =>
    rw [hevent] at h
    cases h
    obtain ⟨d₀, hd, -, hitem⟩ := (item_source ds).1 hevent
    exact ⟨d₀, hd, hitem⟩
  | none =>
    rw [hevent] at h
    obtain ⟨d₀, hd, -, hitem⟩ := (item_source ds).2 h
    exact ⟨d₀, hd, hitem⟩

end Run

def EventLedgerRecord.idempotencyKey (r : EventLedgerRecord) : Option Json := r.payload.lookup "idempotency_key"

theorem record_idempotencyKey (d : Delivery) (s : MemoryInboxStore) :
    (record d s).idempotencyKey = some (.str d.envelope.idempotencyKey) := rfl

theorem record_taken (ds : List Delivery) : ∀ r ∈ (inbox ds).ledgerRecords, ∃ key item,
    r.idempotencyKey = some (.str key) ∧ (inbox ds).idempotencyItems.lookup (r.tenantId, key) = some item := by
  induction ds using List.reverseRecOn with
  | nil => exact fun _ h => by cases h
  | append_singleton ds d ih =>
    intro r hr
    rcases inbox_step ds d with ⟨h, -⟩ | ⟨-, h, -⟩
    · rw [h] at hr ⊢
      exact ih r hr
    · rw [h] at hr ⊢
      simp only [admitted, lookup_insert_ite]
      rcases List.mem_append.1 hr with hr | hr
      · obtain ⟨key, item, hkey, hl⟩ := ih r hr
        by_cases hk : (r.tenantId, key) = d.idempotencyKey
        · exact ⟨key, _, hkey, if_pos hk⟩
        · exact ⟨key, item, hkey, by rw [if_neg hk, hl]⟩
      · obtain rfl := List.mem_singleton.1 hr
        exact ⟨d.envelope.idempotencyKey, _, rfl, if_pos rfl⟩

/-! ## What the inbox promises -/

/-- Equal in every field, payload and metadata as dictionaries. -/
structure EventEnvelope.Same (e e' : EventEnvelope) : Prop where
  fields : { e with payload := [], metadata := [] } = { e' with payload := [], metadata := [] }
  payload : (Json.obj e.payload).canon = (Json.obj e'.payload).canon
  metadata : (Json.obj e.metadata).canon = (Json.obj e'.metadata).canon

/-- What the ledger and the answers of a run promise. -/
structure Verifiable (ds : List Delivery) : Prop where
  verified : ∃ counts, verifyEventLedgerRecords (inbox ds).ledgerRecords = .ok counts ∧
    ∀ t, counts.lookup t = if acceptedOf t ds = 0 then none else some (acceptedOf t ds)
  identities : (inbox ds).ledgerRecords.Pairwise fun r r' => r.tenantId = r'.tenantId →
    r.eventId ≠ r'.eventId ∧ r.idempotencyKey ≠ r'.idempotencyKey
  duplicates : ∀ done d rest result, ds = done ++ d :: rest → (accept d (inbox done)).1 = .ok result →
    result.duplicate = true → (accept d (inbox done)).2 = inbox done ∧ ∃ d₀, Admits done d₀ ∧
      result = { d₀.result with status := .duplicate, duplicate := true } ∧ d₀.comparisonSha256 = d.comparisonSha256 ∧
      (d₀.deduplicationSha256 = none → d.deduplicationSha256 = none → d₀.envelope.Same d.envelope)
  raises : ∀ done d rest e, ds = done ++ d :: rest → (accept d (inbox done)).1 = .error e →
    (accept d (inbox done)).2 = inbox done

/-- A delivery whose event id is in its tenant's ledger meets an item under its event key or its idempotency key. -/
def Recognised (ds : List Delivery) : Prop :=
  ∀ (done : List Delivery) d (rest : List Delivery),
    ds = done ++ d :: rest → canonicalPayloadSha256 d.envelope.modelDump = d.semanticSha256 →
    (∃ r ∈ (inbox done).ledgerRecords, r.tenantId = d.envelope.tenantId ∧ r.eventId = d.envelope.eventId) →
    d.eventKey ∈ (inbox done).eventItems ∨ d.idempotencyKey ∈ (inbox done).idempotencyItems

/-- The canonical texts the deliveries of a run are hashed to. -/
def eventTexts (ds : List Delivery) : Set String := {t | ∃ d ∈ ds, t = dumps false (.obj d.envelope.modelDump)}

section Promise

variable {ds : List Delivery} {d d₀ : Delivery}

theorem modelDump_valid {e : EventEnvelope} (hp : validMembers e.payload = true) (hm : validMembers e.metadata = true) :
    (Json.obj e.modelDump).valid = true := by
  cases hc : e.customerId <;> simp [EventEnvelope.modelDump, optionalText, Json.valid, validMembers, hp, hm, hc]

theorem optionalText_inj {a b : Option String} (h : (optionalText a).canon = (optionalText b).canon) : a = b := by
  revert h
  cases a <;> cases b <;> simp [optionalText, Json.canon]

theorem modelDump_inj {e e' : EventEnvelope} (h : (Json.obj e.modelDump).canon = (Json.obj e'.modelDump).canon) :
    e.Same e' := by
  have hkeys : (e'.modelDump.map Prod.fst).Nodup := by
    simp [EventEnvelope.modelDump]
  have hfield : ∀ {k v w}, e.modelDump.lookup k = some v → e'.modelDump.lookup k = some w → v.canon = w.canon :=
    fun hv hw => canon_lookup h hkeys hv hw
  have h₁ := hfield (k := "event_id") rfl rfl
  have h₂ := hfield (k := "event_type") rfl rfl
  have h₃ := hfield (k := "event_version") rfl rfl
  have h₄ := hfield (k := "occurred_at") rfl rfl
  have h₅ := hfield (k := "received_at") rfl rfl
  have h₆ := hfield (k := "source") rfl rfl
  have h₇ := hfield (k := "tenant_id") rfl rfl
  have h₈ := hfield (k := "customer_id") rfl rfl
  have h₉ := hfield (k := "correlation_id") rfl rfl
  have h₁₀ := hfield (k := "causation_id") rfl rfl
  have h₁₁ := hfield (k := "idempotency_key") rfl rfl
  have h₁₂ := hfield (k := "payload") rfl rfl
  have h₁₃ := hfield (k := "metadata") rfl rfl
  have hc : e.customerId = e'.customerId := optionalText_inj h₈
  simp only [Json.canon, Json.str.injEq] at h₁ h₂ h₃ h₄ h₅ h₆ h₇ h₉ h₁₀ h₁₁
  refine ⟨?_, h₁₂, h₁₃⟩
  rw [h₁, h₂, h₃, h₄, h₅, h₆, h₇, hc, h₉, h₁₀, h₁₁]

theorem Admits.mem (h : Admits ds d) : d ∈ ds := by
  obtain ⟨done, rest, rfl, -⟩ := h
  simp

theorem Admits.digest (h : Admits ds d) : canonicalPayloadSha256 d.envelope.modelDump = d.semanticSha256 := by
  obtain ⟨_, _, _, hnew⟩ := h
  exact hnew.digest

/-- Where digests do not collide, equal semantic digests are of equal events. -/
theorem same_of_digest (json : ∀ d ∈ ds, validMembers d.envelope.payload = true ∧ validMembers d.envelope.metadata = true)
    (collisionFree : Set.InjOn Sha256.hexdigest (eventTexts ds)) (hd : d ∈ ds) (hd₀ : d₀ ∈ ds)
    (h : canonicalPayloadSha256 d₀.envelope.modelDump = canonicalPayloadSha256 d.envelope.modelDump) :
    d₀.envelope.Same d.envelope := by
  obtain ⟨hp, hm⟩ := json d hd
  obtain ⟨hp₀, hm₀⟩ := json d₀ hd₀
  apply modelDump_inj
  apply dumps_inj (modelDump_valid hp₀ hm₀) (modelDump_valid hp hm)
  exact collisionFree ⟨d₀, hd₀, rfl⟩ ⟨d, hd, rfl⟩ h

theorem duplicate_of {done rest : List Delivery} {result : IngressResult}
    (json : ∀ d ∈ ds, validMembers d.envelope.payload = true ∧ validMembers d.envelope.metadata = true)
    (collisionFree : Set.InjOn Sha256.hexdigest (eventTexts ds)) (hds : ds = done ++ d :: rest)
    (h : (accept d (inbox done)).1 = .ok result) (hdup : result.duplicate = true) :
    (accept d (inbox done)).2 = inbox done ∧ ∃ d₀, Admits done d₀ ∧
      result = { d₀.result with status := .duplicate, duplicate := true } ∧ d₀.comparisonSha256 = d.comparisonSha256 ∧
      (d₀.deduplicationSha256 = none → d.deduplicationSha256 = none → d₀.envelope.Same d.envelope) := by
  rcases accept_cases d (inbox done) with ⟨e, haccept⟩ | ⟨c, found, hfound, hc, hdigest, haccept⟩ | ⟨-, haccept⟩
  · rw [haccept] at h
    cases h
  · rw [haccept] at h ⊢
    obtain ⟨d₀, hd₀, hitem⟩ := existing_source hfound
    obtain ⟨rfl, rfl⟩ := Prod.mk.inj hitem
    refine ⟨rfl, d₀, hd₀, (Except.ok.inj h).symm, hc, fun hnone₀ hnone => ?_⟩
    have hmem₀ : d₀ ∈ ds := by
      rw [hds]
      exact List.mem_append_left _ hd₀.mem
    have hmem : d ∈ ds := by simp [hds]
    apply same_of_digest json collisionFree hmem hmem₀
    simp only [Delivery.comparisonSha256, hnone₀, hnone, orElse, Option.getD_none] at hc
    rw [hd₀.digest, hdigest, hc]
  · rw [haccept] at h
    obtain rfl := Except.ok.inj h
    cases hdup

theorem raise_unchanged (d : Delivery) {s : MemoryInboxStore} {e : StorageError} (h : (accept d s).1 = .error e) :
    (accept d s).2 = s := by
  rcases accept_cases d s with ⟨_, haccept⟩ | ⟨_, _, -, -, -, haccept⟩ | ⟨-, haccept⟩
  · rw [haccept]
  · rw [haccept]
  · rw [haccept] at h
    cases h

theorem verified (ds : List Delivery) : ∃ counts, verifyEventLedgerRecords (inbox ds).ledgerRecords = .ok counts ∧
    ∀ t, counts.lookup t = if acceptedOf t ds = 0 then none else some (acceptedOf t ds) := by
  obtain ⟨counts, hok, hcounts⟩ := verify_ok (ledgered ds).chained
  refine ⟨counts, hok, fun t => ?_⟩
  rw [hcounts, (ledgered ds).accepted]

theorem records_kept (ds more : List Delivery) : (inbox ds).ledgerRecords <+: (inbox (ds ++ more)).ledgerRecords := by
  induction more using List.reverseRecOn with
  | nil => rw [List.append_nil]
  | append_singleton more d ih =>
    rw [← List.append_assoc]
    rcases inbox_step (ds ++ more) d with ⟨h, -⟩ | ⟨-, h, -⟩
    · rw [h]
      exact ih
    · rw [h, admitted_records]
      exact ih.trans (List.prefix_append _ _)

/-- Two records of a tenant never share an idempotency key; an event id they share if an unrecognised delivery brought
it again. -/
theorem identities_iff (ds : List Delivery) : ((inbox ds).ledgerRecords.Pairwise fun r r' => r.tenantId = r'.tenantId →
    r.eventId ≠ r'.eventId ∧ r.idempotencyKey ≠ r'.idempotencyKey) ↔ Recognised ds := by
  constructor
  · rintro hpair done d rest rfl hdigest ⟨r, hr, ht, he⟩
    by_contra hunknown
    rw [not_or, ← AList.lookup_eq_none, ← AList.lookup_eq_none] at hunknown
    have hnew : New d (inbox done) := ⟨hdigest, hunknown.1, hunknown.2⟩
    -- the delivery is admitted, so its record follows the old one in the ledger
    have hrecords : (inbox (done ++ [d])).ledgerRecords = (inbox done).ledgerRecords ++ [record d (inbox done)] := by
      rw [inbox_concat, hnew.accepted]
      rfl
    have hprefix := records_kept (done ++ [d]) rest
    rw [hrecords, List.append_assoc, List.singleton_append] at hprefix
    have htwo := (List.pairwise_append.1 (hpair.sublist hprefix.sublist)).2.2 r hr (record d (inbox done)) (by simp)
    exact (htwo ht).1 he
  · intro hrec
    induction ds using List.reverseRecOn with
    | nil => exact List.Pairwise.nil
    | append_singleton ds d ih =>
      have hpair := ih fun done x rest hds => hrec done x (rest ++ [d]) (by simp [hds])
      rcases inbox_step ds d with ⟨h, -⟩ | ⟨hnew, h, -⟩
      · rw [h]
        exact hpair
      · rw [h, admitted_records, List.pairwise_append]
        refine ⟨hpair, List.pairwise_singleton _ _, fun r hr r' hr' ht => ?_⟩
        obtain rfl := List.mem_singleton.1 hr'
        refine ⟨fun he => ?_, fun hkey => ?_⟩
        · rcases hrec ds d [] rfl hnew.digest ⟨r, hr, ht, he⟩ with hk | hk
          · exact absurd hnew.event (by rw [AList.lookup_eq_none]; exact not_not.2 hk)
          · exact absurd hnew.idempotency (by rw [AList.lookup_eq_none]; exact not_not.2 hk)
        · obtain ⟨key, item, hk, hl⟩ := record_taken ds r hr
          have hkey' : key = d.envelope.idempotencyKey := by
            rw [hk, record_idempotencyKey] at hkey
            simpa using hkey
          have ht : r.tenantId = d.envelope.tenantId := ht
          rw [hkey', ht] at hl
          exact absurd hnew.idempotency (by rw [Delivery.idempotencyKey, hl]; simp)

/-- In every run whose digests do not collide the ledger is verifiable, exactly when every delivery of a known event is
recognised. -/
theorem verifiable_iff (ds : List Delivery)
    (json : ∀ d ∈ ds, validMembers d.envelope.payload = true ∧ validMembers d.envelope.metadata = true)
    (collisionFree : Set.InjOn Sha256.hexdigest (eventTexts ds)) : Verifiable ds ↔ Recognised ds := by
  constructor
  · intro h
    exact (identities_iff ds).1 h.identities
  · intro h
    refine ⟨verified ds, (identities_iff ds).2 h, ?_, ?_⟩
    · intro done d rest result hds hok hdup
      exact duplicate_of json collisionFree hds hok hdup
    · intro done d rest e _ herr
      exact raise_unchanged d herr

end Promise

/-! ## One event id of two producers -/

namespace Synthetic

def event (idempotencyKey : String) : EventEnvelope :=
  { eventId := "evt-1", eventType := "codestra.test.event", occurredAt := "2026-01-01T00:00:00Z",
    receivedAt := "2026-01-01T00:00:01Z", source := "test-source", tenantId := "tenant-test", correlationId := "corr-1",
    causationId := "cause-1", idempotencyKey := idempotencyKey, payload := [("value", .int 1)] }

/-- The event from a producer that identifies its bodies. -/
def delivery (producer idempotencyKey : String) : Delivery :=
  { envelope := event idempotencyKey, producerClientId := producer
    semanticSha256 := canonicalPayloadSha256 (event idempotencyKey).modelDump
    deduplicationSha256 := some ("body of " ++ producer) }

def twoProducers : List Delivery := [delivery "producer-a" "idem-0001", delivery "producer-b" "idem-0002"]

def redelivered : List Delivery := [delivery "producer-a" "idem-0001", delivery "producer-a" "idem-0001"]

theorem delivery_digest (producer idempotencyKey : String) :
    canonicalPayloadSha256 (delivery producer idempotencyKey).envelope.modelDump =
      (delivery producer idempotencyKey).semanticSha256 := rfl

theorem inbox_first : inbox [delivery "producer-a" "idem-0001"] = admitted (delivery "producer-a" "idem-0001") {} := by
  have hnew : New (delivery "producer-a" "idem-0001") {} := ⟨delivery_digest _ _, rfl, rfl⟩
  rw [inbox, List.foldl_cons, hnew.accepted]
  rfl

end Synthetic

/-- Both events are accepted, and the tenant's ledger names the event id twice. -/
theorem event_id_recorded_twice : ¬ Verifiable Synthetic.twoProducers := by
  intro h
  have hrec := (identities_iff _).1 h.identities [Synthetic.delivery "producer-a" "idem-0001"]
    (Synthetic.delivery "producer-b" "idem-0002") [] rfl (Synthetic.delivery_digest _ _)
  rw [Synthetic.inbox_first] at hrec
  have hknown := hrec ⟨_, List.mem_append_right _ (List.mem_singleton_self _), rfl, rfl⟩
  revert hknown
  decide

theorem redelivered_verifiable : Verifiable Synthetic.redelivered := by
  apply (verifiable_iff Synthetic.redelivered ?_ ?_).2
  · intro done d rest hds _ hknown
    match done with
    | [] =>
      obtain ⟨r, hr, -⟩ := hknown
      cases hr
    | [d₀] =>
      cases hds
      rw [Synthetic.inbox_first]
      exact .inl ((AList.mem_insert _).2 (.inl rfl))
    | _ :: _ :: _ :: _ | [_, _] => simp [Synthetic.redelivered] at hds
  · intro d hd
    have hd : d = Synthetic.delivery "producer-a" "idem-0001" := by simpa [Synthetic.redelivered] using hd
    rw [hd]
    decide
  · rintro t ⟨d, hd, rfl⟩ t' ⟨d', hd', rfl⟩ -
    simp only [Synthetic.redelivered, List.mem_cons, List.not_mem_nil, or_false, or_self] at hd hd'
    rw [hd, hd']

end Middleware.Events
