/-
What one call does to the store of bodies, and what its answer says about the store. The rows and records of a store are
those of the deliveries that came (`Known`); when no two of them share a record's file (`Distinct`) a reference stands for
one event with one body, and what a cleaner finds in the inbox decides whether any row refers to the body.
-/
import Middleware.Bodies.Store

namespace Middleware.Bodies

open Lib

/-- A committed row refers to the body. -/
def Referenced (s : Store) (r : Reference) : Prop := ∃ row ∈ s.inbox, row.encryptedBodyReference = r

/-- The body is recorded as pending. -/
def Journaled (s : Store) (r : Reference) : Prop := ∃ record ∈ s.pending, record.reference = r

/-- What two deliveries of one event have in common. -/
def Delivery.identity (d : Delivery) : Uuid × Uuid × String × String := (d.tenantId, d.webhookId, d.eventId, d.bodySha256)

/-- Deliveries whose pending records have one file are deliveries of one event with one body. -/
def Distinct (K : Delivery → Prop) : Prop :=
  ∀ d d', K d → K d' → pendingPath d.reference = pendingPath d'.reference → d.identity = d'.identity

def Delivery.row (d : Delivery) (inboxId : Uuid) : InboxRow :=
  ⟨inboxId, d.tenantId, d.webhookId, d.eventId, d.bodySha256, d.reference⟩

/-- The rows and the records of a store are those of the deliveries, and every row has the only key of its event. -/
structure Known (K : Delivery → Prop) (s : Store) : Prop where
  rows : ∀ row ∈ s.inbox, ∃ d, K d ∧ row = d.row row.inboxId
  keyed : ∀ row ∈ s.inbox, ∃ key ∈ s.eventKeys,
    key.webhookId = row.webhookId ∧ key.eventId = row.eventId ∧ key.bodySha256 = row.bodySha256
  keys : ∀ a ∈ s.eventKeys, ∀ b ∈ s.eventKeys, a.webhookId = b.webhookId → a.eventId = b.eventId → a = b
  records : ∀ record ∈ s.pending, ∃ d, K d ∧ record = d.record record.createdAt

section References

variable {K : Delivery → Prop} {s : Store} {d d' : Delivery} {record : PendingBodyRecord}

theorem reference_of_identity (h : d.identity = d'.identity) : d.reference = d'.reference := by
  simp only [Delivery.identity, Prod.mk.injEq] at h
  obtain ⟨ht, hw, he, hb⟩ := h
  simp only [Delivery.reference, ht, hw, he, hb]

theorem path_of_same {a b : Reference} (h : samePath a b = true) : pendingPath a = pendingPath b := by
  simp only [samePath, Bool.or_eq_true, beq_iff_eq] at h
  rcases h with rfl | h
  · rfl
  · exact h

@[simp] theorem samePath_self (a : Reference) : samePath a a = true := by simp [samePath]

theorem reference_of_same (hK : Distinct K) (hd : K d) (hd' : K d') (h : samePath d.reference d'.reference = true) :
    d.reference = d'.reference :=
  reference_of_identity (hK d d' hd hd' (path_of_same h))

theorem identity_of_reference (hK : Distinct K) (hd : K d) (hd' : K d') (h : d.reference = d'.reference) :
    d.identity = d'.identity :=
  hK d d' hd hd' (congrArg pendingPath h)

theorem Known.digest_unique (h : Known K s) {a b : InboxRow} (ha : a ∈ s.inbox) (hb : b ∈ s.inbox)
    (hw : a.webhookId = b.webhookId) (he : a.eventId = b.eventId) : a.bodySha256 = b.bodySha256 := by
  obtain ⟨ka, hka, hwa, hea, hda⟩ := h.keyed a ha
  obtain ⟨kb, hkb, hwb, heb, hdb⟩ := h.keyed b hb
  have hk : ka = kb := h.keys ka hka kb hkb (by rw [hwa, hwb, hw]) (by rw [hea, heb, he])
  rw [← hda, ← hdb, hk]

theorem isOf_iff {t w e : String} {row : InboxRow} :
    row.isOf t w e = true ↔ row.tenantId = t ∧ row.webhookId = w ∧ row.eventId = e := by
  simp [InboxRow.isOf, and_assoc]

theorem referenced_of_accepted (h : webhookBodyReferenceState record s = .accepted) : Referenced s record.reference := by
  unfold webhookBodyReferenceState at h
  split at h
  · cases h
  rename_i row hfound
  split at h
  · rename_i hsame
    exact ⟨row, List.mem_of_find?_eq_some hfound, hsame.2⟩
  · cases h

theorem unreferenced_of_state (hK : Distinct K) (hs : Known K s) {createdAt : Time} (hd : K d)
    (h : webhookBodyReferenceState (d.record createdAt) s ≠ .accepted) : ¬Referenced s d.reference := by
  rintro ⟨row, hrow, href⟩
  obtain ⟨d', hd', hof⟩ := hs.rows row hrow
  rw [hof] at href
  have hid := identity_of_reference hK hd' hd href
  simp only [Delivery.identity, Prod.mk.injEq] at hid
  obtain ⟨ht, hw, he, hb⟩ := hid
  have hisof : row.isOf d.tenantId d.webhookId d.eventId = true := by
    rw [hof]
    exact isOf_iff.2 ⟨ht, hw, he⟩
  cases hfound : s.inbox.find? (InboxRow.isOf d.tenantId d.webhookId d.eventId) with
  | none =>
    rw [List.find?_eq_none] at hfound
    exact hfound row hrow hisof
  | some row' =>
    have hrow' := List.mem_of_find?_eq_some hfound
    obtain ⟨ht', hw', he'⟩ := isOf_iff.1 (List.find?_some hfound)
    have hdigest : row'.bodySha256 = d.bodySha256 := by
      rw [hs.digest_unique hrow' hrow (by rw [hw', hof]; exact hw.symm) (by rw [he', hof]; exact he.symm), hof]
      exact hb
    obtain ⟨d'', hd'', hof'⟩ := hs.rows row' hrow'
    have href' : row'.encryptedBodyReference = d.reference := by
      rw [hof'] at ht' hw' he' hdigest ⊢
      apply reference_of_identity
      simp only [Delivery.identity, Prod.mk.injEq]
      exact ⟨ht', hw', he', hdigest⟩
    apply h
    unfold webhookBodyReferenceState
    simp only [Delivery.record, hfound, hdigest, href', and_self, if_true]

end References

/-! ## The transaction -/

section Transaction

variable {K : Delivery → Prop} {s : Store} {d : Delivery} {inboxId : Uuid}

/-- The transaction is refused and writes nothing, or it leaves the key and the row of the event behind. -/
theorem persist_cases (d : Delivery) (inboxId : Uuid) (s : Store) :
    persistVerifiedWebhook d inboxId s = (.error .other, s) ∨
    (persistVerifiedWebhook d inboxId s = (.error semanticConflict, s) ∧ ∃ key ∈ s.eventKeys,
      key.webhookId = d.webhookId ∧ key.eventId = d.eventId ∧ key.bodySha256 ≠ d.bodySha256) ∨
    ∃ a keys rows, persistVerifiedWebhook d inboxId s = (.ok a, { s with eventKeys := keys, inbox := rows }) ∧
      (keys = s.eventKeys ∧ (∃ key ∈ keys, key.webhookId = d.webhookId ∧ key.eventId = d.eventId ∧
          key.bodySha256 = d.bodySha256) ∨
        keys = s.eventKeys ++ [⟨d.tenantId, d.webhookId, d.eventId, d.bodySha256⟩] ∧
          ∀ key ∈ s.eventKeys, key.webhookId = d.webhookId → key.eventId ≠ d.eventId) ∧
      (rows = s.inbox ∧ (∃ row ∈ rows, row.isOf d.tenantId d.webhookId d.eventId = true) ∨
        rows = s.inbox ++ [d.row inboxId]) := by
  unfold persistVerifiedWebhook
  split
  · rename_i hnone
    refine .inr (.inr ?_)
    have hfresh : ∀ key ∈ s.eventKeys, key.webhookId = d.webhookId → key.eventId ≠ d.eventId := by
      intro key hkey hw he
      have := List.find?_eq_none.1 hnone key hkey
      simp [hw, he] at this
    unfold insertInbox
    split
    · rename_i row hrow
      exact ⟨_, _, _, rfl, .inr ⟨rfl, hfresh⟩, .inl ⟨rfl, row, List.mem_of_find?_eq_some hrow, List.find?_some hrow⟩⟩
    · exact ⟨_, _, _, rfl, .inr ⟨rfl, hfresh⟩, .inr rfl⟩
  · rename_i key hkey
    have hmem := List.mem_of_find?_eq_some hkey
    have hsame := List.find?_some hkey
    simp only [Bool.and_eq_true, beq_iff_eq] at hsame
    split
    · exact .inl rfl
    · split
      · rename_i hne
        exact .inr (.inl ⟨rfl, key, hmem, hsame.1, hsame.2, hne⟩)
      · rename_i hdigest
        refine .inr (.inr ?_)
        have hkeyed : ∃ key ∈ s.eventKeys, key.webhookId = d.webhookId ∧ key.eventId = d.eventId ∧
            key.bodySha256 = d.bodySha256 := ⟨key, hmem, hsame.1, hsame.2, not_not.1 hdigest⟩
        unfold insertInbox
        split
        · rename_i row hrow
          exact ⟨_, _, _, rfl, .inl ⟨rfl, hkeyed⟩, .inl ⟨rfl, row, List.mem_of_find?_eq_some hrow, List.find?_some hrow⟩⟩
        · exact ⟨_, _, _, rfl, .inl ⟨rfl, hkeyed⟩, .inr rfl⟩

theorem persist_conflict (inboxId : Uuid) (hK : Distinct K) (hs : Known K s) (hd : K d)
    (h : (persistVerifiedWebhook d inboxId s).1 = .error semanticConflict) : ¬Referenced s d.reference := by
  rcases persist_cases d inboxId s with heq | ⟨-, key, hkey, hw, he, hne⟩ | ⟨a, keys, rows, heq, -⟩
  · rw [heq] at h
    cases h
  · rintro ⟨row, hrow, href⟩
    obtain ⟨d', hd', hof⟩ := hs.rows row hrow
    obtain ⟨key', hkey', hw', he', hdigest⟩ := hs.keyed row hrow
    rw [hof] at href hw' he' hdigest
    have hid := identity_of_reference hK hd' hd href
    simp only [Delivery.identity, Prod.mk.injEq] at hid
    have hk : key = key' := by
      apply hs.keys key hkey key' hkey'
      · rw [hw, hw']
        exact hid.2.1.symm
      · rw [he, he']
        exact hid.2.2.1.symm
    apply hne
    rw [hk, hdigest]
    exact hid.2.2.2
  · rw [heq] at h
    cases h

/-- What an answered transaction leaves behind. -/
structure Persisted (K : Delivery → Prop) (d : Delivery) (s s' : Store) : Prop where
  known : Known K s'
  mono : ∀ r, Referenced s r → Referenced s' r
  rows : ∀ r, Referenced s' r → Referenced s r ∨ r = d.reference
  row : Referenced s' d.reference
  frame : s'.bodies = s.bodies ∧ s'.pending = s.pending ∧ s'.temporaries = s.temporaries

theorem persist_ok (hs : Known K s) (hd : K d) {a : Bool × Uuid} (h : (persistVerifiedWebhook d inboxId s).1 = .ok a) :
    Persisted K d s (persistVerifiedWebhook d inboxId s).2 := by
  rcases persist_cases d inboxId s with heq | ⟨heq, -⟩ | ⟨a, keys, rows, heq, hkeys, hrows⟩
  · rw [heq] at h
    cases h
  · rw [heq] at h
    cases h
  rw [heq]
  -- the key of the event
  have hkeyed : ∃ key ∈ keys, key.webhookId = d.webhookId ∧ key.eventId = d.eventId ∧ key.bodySha256 = d.bodySha256 := by
    rcases hkeys with ⟨rfl, hkey⟩ | ⟨rfl, -⟩
    · exact hkey
    · exact ⟨_, List.mem_append_right _ List.mem_cons_self, rfl, rfl, rfl⟩
  have hsub : ∀ key ∈ s.eventKeys, key ∈ keys := by
    rcases hkeys with ⟨rfl, -⟩ | ⟨rfl, -⟩
    · exact fun _ h => h
    · exact fun _ h => List.mem_append_left _ h
  have hunique : ∀ a ∈ keys, ∀ b ∈ keys, a.webhookId = b.webhookId → a.eventId = b.eventId → a = b := by
    rcases hkeys with ⟨rfl, -⟩ | ⟨rfl, hfresh⟩
    · exact hs.keys
    · intro a ha b hb hw he
      simp only [List.mem_append, List.mem_singleton] at ha hb
      rcases ha with ha | rfl <;> rcases hb with hb | rfl
      · exact hs.keys a ha b hb hw he
      · exact absurd he (hfresh a ha hw)
      · exact absurd he.symm (hfresh b hb hw.symm)
      · rfl
  have hold : ∀ row ∈ s.inbox, row ∈ rows := by
    rcases hrows with ⟨rfl, -⟩ | rfl
    · exact fun _ h => h
    · exact fun _ h => List.mem_append_left _ h
  have hnew : ∀ row ∈ rows, row ∈ s.inbox ∨ row = d.row inboxId := by
    rcases hrows with ⟨rfl, -⟩ | rfl
    · exact fun _ h => .inl h
    · simp
  have hknown : Known K { s with eventKeys := keys, inbox := rows } := by
    constructor
    · intro row hrow
      rcases hnew row hrow with hrow | rfl
      · exact hs.rows row hrow
      · exact ⟨d, hd, rfl⟩
    · intro row hrow
      rcases hnew row hrow with hrow | rfl
      · obtain ⟨key, hkey, hof⟩ := hs.keyed row hrow
        exact ⟨key, hsub key hkey, hof⟩
      · exact hkeyed
    · exact hunique
    · exact hs.records
  refine ⟨hknown, ?_, ?_, ?_, rfl, rfl, rfl⟩
  · rintro r ⟨row, hrow, href⟩
    exact ⟨row, hold row hrow, href⟩
  · rintro r ⟨row, hrow, href⟩
    rcases hnew row hrow with hrow | rfl
    · exact .inl ⟨row, hrow, href⟩
    · exact .inr href.symm
  · rcases hrows with ⟨rfl, row, hrow, hisof⟩ | rfl
    · -- the row that was there has the digest of the key, which is the delivery's
      obtain ⟨ht, hw, he⟩ := isOf_iff.1 hisof
      obtain ⟨key, hkey, hkw, hke, hkd⟩ := hkeyed
      obtain ⟨key', hkey', hkw', hke', hkd'⟩ := hknown.keyed row hrow
      have hk : key = key' := hunique key hkey key' hkey' (by rw [hkw, hkw', hw]) (by rw [hke, hke', he])
      obtain ⟨d', -, hof⟩ := hs.rows row hrow
      refine ⟨row, hrow, ?_⟩
      have hdigest : row.bodySha256 = d.bodySha256 := by rw [← hkd', ← hk, hkd]
      rw [hof] at ht hw he hdigest ⊢
      apply reference_of_identity
      simp only [Delivery.identity, Prod.mk.injEq]
      exact ⟨ht, hw, he, hdigest⟩
    · exact ⟨d.row inboxId, by simp, rfl⟩

end Transaction

/-! ## One call -/

inductive Effect (K : Delivery → Prop) (s : Store) : Call → Store → Prop
  | same (op : Call) : Effect K s op s
  | journaled (record : PendingBodyRecord) : Effect K s (.writePending record) (writePendingRecord record s)
  | cleared (r : Reference) : Effect K s (.unlinkPending r) (unlinkPending r s)
  | created (r : Reference) : Effect K s (.mkstemp r) (mkstemp s)
  | replaced (temporary : Nat) (r : Reference) : Effect K s (.replace temporary r) (replaceBody temporary r s)
  | dropped (temporary : Nat) : Effect K s (.unlinkTemporary temporary) (unlinkTemporary temporary s)
  | removed (r : Reference) : Effect K s (.remove r) (removeBody r s)
  | persisted (d : Delivery) (s' : Store) (h : Persisted K d s s') : Effect K s (.persistVerified d) s'

/-- What the answer of a call says about the store it leaves. -/
def Post (s : Store) : (op : Call) → Except Failure op.Answer → Prop
  | .bodyExists r, .ok true => r ∈ s.bodies
  | .writePending record, .ok _ => Journaled s record.reference
  | .replace _ r, .ok _ => r ∈ s.bodies
  | .remove r, .ok _ => r ∉ s.bodies
  | .referenceState record, .ok .accepted => Referenced s record.reference
  | .referenceState record, .ok _ => ¬Referenced s record.reference
  | .persistVerified d, .ok _ => Referenced s d.reference
  | .persistVerified d, .error (.problem _) => ¬Referenced s d.reference
  | .read _, .ok record => record ∈ s.pending
  | _, _ => True

def Call.Knows (K : Delivery → Prop) : Call → Prop
  | .referenceState record | .writePending record => ∃ d, K d ∧ record = d.record record.createdAt
  | .persistVerified d => K d
  | .remove r | .unlinkPending r => ∃ d, K d ∧ r = d.reference
  | _ => True

section Calls

variable {K : Delivery → Prop} {s : Store}

theorem file_cases (i : Input) (f : Store → Store) (s : Store) :
    (∃ e : Outside, i.file f s = (.error e.failure, s) ∨ i.file f s = (.error e.failure, f s)) ∨
      i.file f s = (.ok (), f s) := by
  unfold Input.file Input.perform
  split
  · exact .inl ⟨_, .inl rfl⟩
  · exact .inl ⟨_, .inr rfl⟩
  · exact .inr rfl

theorem file_effect {i : Input} {f : Store → Store} {op : Call} (hf : Effect K s op (f s)) :
    Effect K s op (i.file f s).2 ∧ ((i.file f s).1 = .ok () → (i.file f s).2 = f s) := by
  rcases file_cases i f s with ⟨e, h | h⟩ | h
  · rw [h]
    exact ⟨.same op, by simp⟩
  · rw [h]
    exact ⟨hf, by simp⟩
  · rw [h]
    exact ⟨hf, fun _ => rfl⟩

theorem post_outside (op : Call) (e : Outside) : Post s op (.error e.failure) := by
  cases e <;> cases op <;> trivial

theorem exec_effect (hs : Known K s) (i : Input) {op : Call} (hop : op.Knows K) : Effect K s op (exec i op s).2 := by
  cases op with
  | time | verify d => exact .same _
  | glob | read file | bodyExists r | referenceState record =>
    simp only [exec, Input.attempt]
    split <;> exact .same _
  | mkstemp r =>
    simp only [exec, Input.attempt]
    split
    · exact .same _
    · exact .created r
  | writePending record => exact (file_effect (.journaled record)).1
  | unlinkPending r => exact (file_effect (.cleared r)).1
  | writeTemporary t r => exact (file_effect (.same _)).1
  | replace t r => exact (file_effect (.replaced t r)).1
  | unlinkTemporary t => exact (file_effect (.dropped t)).1
  | remove r => exact (file_effect (.removed r)).1
  | persistVerified d =>
    have hrun : Effect K s (.persistVerified d) (persistVerifiedWebhook d i.uuid s).2 := by
      cases hr : (persistVerifiedWebhook d i.uuid s).1 with
      | ok a => exact .persisted d _ (persist_ok hs hop hr)
      | error e =>
        rcases persist_cases d i.uuid s with heq | ⟨heq, -⟩ | ⟨a, keys, rows, heq, -⟩
        · rw [heq]
          exact .same _
        · rw [heq]
          exact .same _
        · rw [heq] at hr
          cases hr
    simp only [exec, Input.perform]
    split
    · exact .same _
    · exact hrun
    · exact hrun

theorem exec_post (hK : Distinct K) (hs : Known K s) (i : Input) {op : Call} (hop : op.Knows K) :
    Post (exec i op s).2 op (exec i op s).1 := by
  cases op with
  | time | verify d | glob | mkstemp r | unlinkPending r | writeTemporary t r | unlinkTemporary t => trivial
  | read file =>
    simp only [exec, Input.attempt]
    split
    · trivial
    · cases h : readPending file s with
      | none => trivial
      | some record => exact List.mem_of_find?_eq_some h
  | bodyExists r =>
    simp only [exec, Input.attempt]
    split
    · trivial
    · by_cases h : r ∈ s.bodies
      · simp only [h, decide_true]
        exact h
      · simp only [h, decide_false]
        trivial
  | writePending record =>
    have h := (file_effect (i := i) (.journaled (K := K) (s := s) record)).2
    show Post (i.file _ s).2 (.writePending record) (i.file _ s).1
    cases hr : (i.file (writePendingRecord record) s).1 with
    | error e => trivial
    | ok a =>
      rw [h hr]
      exact ⟨record, by simp [writePendingRecord], rfl⟩
  | replace t r =>
    have h := (file_effect (i := i) (.replaced (K := K) (s := s) t r)).2
    show Post (i.file _ s).2 (.replace t r) (i.file _ s).1
    cases hr : (i.file (replaceBody t r) s).1 with
    | error e => trivial
    | ok a =>
      rw [h hr]
      exact List.mem_cons_self
  | remove r =>
    have h := (file_effect (i := i) (.removed (K := K) (s := s) r)).2
    show Post (i.file _ s).2 (.remove r) (i.file _ s).1
    cases hr : (i.file (removeBody r) s).1 with
    | error e => trivial
    | ok a =>
      rw [h hr]
      simp [Post, removeBody]
  | referenceState record =>
    simp only [exec, Input.attempt]
    split
    · trivial
    · obtain ⟨d, hd, hrecord⟩ := hop
      cases h : webhookBodyReferenceState record s with
      | accepted => exact referenced_of_accepted h
      | rejected | unreferenced =>
        rw [hrecord] at h ⊢
        apply unreferenced_of_state hK hs hd
        rw [h]
        decide
  | persistVerified d =>
    simp only [exec, Input.perform]
    split
    · exact post_outside _ _
    · exact post_outside _ _
    · cases hr : (persistVerifiedWebhook d i.uuid s).1 with
      | ok a => exact (persist_ok hs hop hr).row
      | error e =>
        rcases persist_cases d i.uuid s with heq | ⟨heq, -⟩ | ⟨a, keys, rows, heq, -⟩
        · rw [heq] at hr
          cases hr
          trivial
        · have hconflict := persist_conflict i.uuid hK hs hop (by rw [heq])
          rw [heq] at hr ⊢
          cases hr
          exact hconflict
        · rw [heq] at hr
          cases hr

end Calls

end Middleware.Bodies
