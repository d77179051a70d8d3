/-
What `verify_event_ledger_records` (`app/storage.py`) commits to: in an accepted list the number of a tenant's records and its last
entry hash fix every record of the tenant's chain, where the texts that are hashed do not collide.
-/
import Middleware.Events.Inbox

namespace Middleware.Events

open Lib MemoryInboxStore

/-- The records of a tenant in the order of the verifier. -/
def chainOf (t : String) (l : List EventLedgerRecord) : List EventLedgerRecord :=
  ofTenant t (l.insertionSort EventLedgerRecord.le)

def lastEntryHash (t : String) (l : List EventLedgerRecord) : String := lastHash (·.entryHash) zeroLedgerHash (chainOf t l)

def EventLedgerRecord.payloadText (r : EventLedgerRecord) : String := dumps false (.obj r.payload)

/-- The fields that an entry hash covers. -/
def EventLedgerRecord.entry (r : EventLedgerRecord) : Json :=
  .arr [.str "codestra-event-ledger-v1", .str r.tenantId, .int r.tenantSequence, .str r.eventId, .str r.semanticSha256,
    .str r.previousEntryHash]

/-- The same record; the payloads are the same dictionary. -/
def SameRecord (r r' : EventLedgerRecord) : Prop :=
  { r with payload := r'.payload } = r' ∧ (Json.obj r.payload).canon = (Json.obj r'.payload).canon

section Verify

variable {done rest l l' : List EventLedgerRecord} {heads heads' : LedgerHeads} {r r' : EventLedgerRecord} {p p' : String} {n : Nat}

/-- A record that passes is bound to what was verified before it. -/
theorem verifyRecord_binds (h : Summary done heads) (hok : verifyRecord heads r = .ok heads') : heads' = heads.advance r ∧
    Binds (lastHash (·.entryHash) zeroLedgerHash (ofTenant r.tenantId done)) (1 + (ofTenant r.tenantId done).length) r := by
  unfold verifyRecord at hok
  dsimp only at hok
  split at hok
  · cases hok
  rename_i hsequence
  split at hok
  · cases hok
  rename_i hprevious
  split at hok
  · cases hok
  rename_i hpayload
  split at hok
  · cases hok
  rename_i hentry
  rw [not_ne_iff] at hsequence hprevious hpayload hentry
  rw [h.expected] at hsequence
  rw [h.previous] at hprevious
  exact ⟨(Except.ok.inj hok).symm, hsequence, hprevious, hpayload, hentry⟩

/-- By induction on the records still to verify. -/
theorem verifyFrom_linked (t : String) (h : Summary done heads) (hok : verifyFrom heads rest = .ok heads') :
    Linked (·.entryHash) Binds (lastHash (·.entryHash) zeroLedgerHash (ofTenant t done)) (1 + (ofTenant t done).length)
      (ofTenant t rest) ∧ Summary (done ++ rest) heads' := by
  induction rest generalizing done heads with
  | nil =>
    cases hok
    rw [List.append_nil]
    exact ⟨trivial, h⟩
  | cons r rest ih =>
    rw [verifyFrom] at hok
    cases hrecord : verifyRecord heads r with
    | error e =>
      rw [hrecord] at hok
      cases hok
    | ok next =>
      rw [hrecord] at hok
      obtain ⟨rfl, hr⟩ := verifyRecord_binds h hrecord
      obtain ⟨hlinked, hsummary⟩ := ih (h.advance r) hok
      refine ⟨?_, by simpa using hsummary⟩
      by_cases ht : r.tenantId = t
      · subst ht
        have hself : ofTenant r.tenantId (done ++ [r]) = ofTenant r.tenantId done ++ [r] := under_concat_self _ done r
        rw [hself, lastHash_concat, List.length_append] at hlinked
        have hcons : ofTenant r.tenantId (r :: rest) = r :: ofTenant r.tenantId rest := List.filter_cons_of_pos (by simp)
        rw [hcons]
        exact ⟨hr, hlinked⟩
      · have hother : ofTenant t (done ++ [r]) = ofTenant t done := under_concat_ne ht
        have hcons : ofTenant t (r :: rest) = ofTenant t rest := List.filter_cons_of_neg (by simpa using ht)
        rwa [hother, ← hcons] at hlinked

/-- What acceptance says of a list: every tenant's records are a chain, and are counted. -/
theorem verify_linked {counts : Ledger.Dict String Nat} (h : verifyEventLedgerRecords l = .ok counts) (t : String) :
    Linked (·.entryHash) Binds zeroLedgerHash 1 (chainOf t l) ∧ (counts.lookup t).getD 0 = (chainOf t l).length := by
  unfold verifyEventLedgerRecords at h
  cases hfrom : verifyFrom {} (l.insertionSort EventLedgerRecord.le) with
  | error e =>
    rw [hfrom] at h
    cases h
  | ok heads =>
    rw [hfrom] at h
    cases h
    obtain ⟨hlinked, hsummary⟩ := verifyFrom_linked t Summary.empty hfrom
    exact ⟨hlinked, hsummary.count t⟩

theorem sameRecord_of_hash (hr : Binds p n r) (hr' : Binds p' n r') (hmem : r ∈ l) (hmem' : r' ∈ l)
    (json : ∀ r ∈ l, validMembers r.payload = true) (payloads : Set.InjOn Sha256.hexdigest {x | ∃ r ∈ l, x = r.payloadText})
    (entries : Set.InjOn Sha256.hexdigest {x | ∃ r ∈ l, x = dumps false r.entry}) (h : r.entryHash = r'.entryHash) :
    SameRecord r r' ∧ p = p' := by
  have hentry : Sha256.hexdigest (dumps false r.entry) = Sha256.hexdigest (dumps false r'.entry) :=
    hr.entry.symm.trans (h.trans hr'.entry)
  have hcanon := dumps_inj (by rfl) (by rfl) (entries ⟨r, hmem, rfl⟩ ⟨r', hmem', rfl⟩ hentry)
  obtain ⟨htenant, hsequence, hevent, hsemantic, hprevious⟩ : r.tenantId = r'.tenantId ∧ r.tenantSequence = r'.tenantSequence ∧
      r.eventId = r'.eventId ∧ r.semanticSha256 = r'.semanticSha256 ∧ r.previousEntryHash = r'.previousEntryHash := by
    simpa [EventLedgerRecord.entry, Json.canon, canonItems] using hcanon
  have hpayload : Sha256.hexdigest r.payloadText = Sha256.hexdigest r'.payloadText :=
    hr.payload.trans (hsemantic.trans hr'.payload.symm)
  have htext := payloads ⟨r, hmem, rfl⟩ ⟨r', hmem', rfl⟩ hpayload
  refine ⟨⟨?_, dumps_inj (json r hmem) (json r' hmem') htext⟩, hr.previous.symm.trans (hprevious.trans hr'.previous)⟩
  rw [htenant, hsequence, hevent, hsemantic, hprevious, h]

/-- Accepted lists that agree in the count and the last hash of a tenant hold the same records in the tenant's chain. -/
theorem ledger_commits {counts counts' : Ledger.Dict String Nat} (h : verifyEventLedgerRecords l = .ok counts)
    (h' : verifyEventLedgerRecords l' = .ok counts') (t : String) (hcount : counts.lookup t = counts'.lookup t)
    (hlast : lastEntryHash t l = lastEntryHash t l') (json : ∀ r ∈ l ++ l', validMembers r.payload = true)
    (payloads : Set.InjOn Sha256.hexdigest {x | ∃ r ∈ l ++ l', x = r.payloadText})
    (entries : Set.InjOn Sha256.hexdigest {x | ∃ r ∈ l ++ l', x = dumps false r.entry}) :
    List.Forall₂ SameRecord (chainOf t l) (chainOf t l') := by
  obtain ⟨hlinked, hlength⟩ := verify_linked h t
  obtain ⟨hlinked', hlength'⟩ := verify_linked h' t
  have hmem : ∀ {l r}, r ∈ chainOf t l → r ∈ l := fun hr =>
    (List.perm_insertionSort EventLedgerRecord.le _).mem_iff.1 (List.mem_of_mem_filter hr)
  rw [hcount, hlength'] at hlength
  exact hlinked.agree hlinked' hlength.symm hlast fun hr hr' hb hb' hhash => sameRecord_of_hash hb hb'
    (List.mem_append_left _ (hmem hr)) (List.mem_append_right _ (hmem hr')) json payloads entries hhash

end Verify

def Synthetic.ledger : List EventLedgerRecord := (inbox [delivery "producer-a" "idem-0001"]).ledgerRecords

/-- The ledger after a run, under a name that is compared without running the inbox. -/
def recordsOf (ds : List Delivery) : List EventLedgerRecord := (inbox ds).ledgerRecords

theorem recordsOf_eq (ds : List Delivery) : recordsOf ds = (inbox ds).ledgerRecords := rfl

theorem Synthetic.ledger_eq : Synthetic.ledger = recordsOf [delivery "producer-a" "idem-0001"] := rfl

theorem Synthetic.ledger_records : Synthetic.ledger = [record (delivery "producer-a" "idem-0001") {}] := by
  rw [ledger_eq, recordsOf_eq, inbox_first, admitted_records]
  rfl

theorem copied_ledger_same : List.Forall₂ SameRecord (chainOf "tenant-test" Synthetic.ledger) (chainOf "tenant-test" Synthetic.ledger) := by
  obtain ⟨counts, hok, -⟩ := verified [Synthetic.delivery "producer-a" "idem-0001"]
  rw [← recordsOf_eq, ← Synthetic.ledger_eq] at hok
  have hone : ∀ {r}, r ∈ Synthetic.ledger ++ Synthetic.ledger → r = record (Synthetic.delivery "producer-a" "idem-0001") {} := by
    simp [Synthetic.ledger_records]
  refine ledger_commits hok hok _ rfl rfl (fun r hr => ?_) ?_ ?_
  · rw [hone hr]
    rfl
  · rintro x ⟨r, hr, rfl⟩ y ⟨r', hr', rfl⟩ -
    rw [hone hr, hone hr']
  · rintro x ⟨r, hr, rfl⟩ y ⟨r', hr', rfl⟩ -
    rw [hone hr, hone hr']

end Middleware.Events
