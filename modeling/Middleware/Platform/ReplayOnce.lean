/-
Re-executions of one operation under one replay key. They create at most one command when they all carry the same new
idempotency key: the store then admits only the first of them. With different keys nothing stops the second one, and
the replay record is overwritten.
-/
import Middleware.Platform.Replay

namespace Middleware.Platform

open Ledger Lib MemoryCommandStore Store
open Lib.Prog (wp wp_bind wp_ask wp_pure wp_map wp_tryCatch wp_discard)

/-! ## What a replay calls -/

/-- A call the replay `q` may make after the calls `h`. -/
def Replays (q : ReplayCommand) (h : List (Ev KernelCall.Answer Exc)) : KernelCall → Prop
  | .platform (.get ..) | .platform (.loadEnvelope ..) | .platform (.backlog _) => True
  | .platform (.evaluateCommand ..) | .platform (.evaluate ..) | .getDeadLetter .. => True
  | .platform (.mutateOperation _) => q.mode = .reprocess
  | .platform (.submit r) => q.mode = .reexecute ∧ r.command.tenantId = q.tenantId ∧
    q.newIdempotencyKey = some r.command.idempotencyKey
  | .createReplay r => q.mode = .reexecute ∧ r.tenantId = q.tenantId ∧ r.commandId = q.operationId ∧
    r.idempotencyKey = q.idempotencyKey
  | .completeReplay tenantId replayId replayCommandId => q.mode = .reexecute ∧ tenantId = q.tenantId ∧
    (∃ r record, (⟨.createReplay r, .ok record⟩ : Ev KernelCall.Answer Exc) ∈ h ∧ record.replayId = replayId) ∧
    ∃ r o, (⟨.platform (.submit r), .ok o⟩ : Ev KernelCall.Answer Exc) ∈ h ∧ o.commandId = replayCommandId
  | .platform _ | .other _ => False

/-- An envelope is stored under its own tenant. -/
def relies : (c : KernelCall) → Except Exc c.Answer → Prop
  | .platform (.loadEnvelope tenantId _), .ok envelope => envelope.tenantId = tenantId
  | _, _ => True

def replayDiscipline : System.Discipline KernelCall.Answer Exc ReplayJob where
  rely := relies
  call j h c :=
    match j with
    | .replay _ q => Replays q h c
    | .other x _ => c = .other x
  done _ _ := True

section Walk

variable {k : CommandKernel} {q : ReplayCommand} {h : List (Ev KernelCall.Answer Exc)} {newKey : String}

theorem wp_submitGated {c : CommandEnvelope} {p : KernelPrincipal} {replayOf : Uuid} {decision : CommandPolicyDecision}
    {backlog : Option (Nat × Nat)} {Q : List (Ev KernelCall.Answer Exc) → CommandOperation → Prop}
    (hmode : q.mode = .reexecute) (ht : c.tenantId = q.tenantId) (hkey : q.newIdempotencyKey = some c.idempotencyKey)
    (hQ : ∀ r o h', h <:+ h' → Q (⟨.platform (.submit r), .ok o⟩ :: h') o) :
    wp relies (Replays q) (k.submitGated c p replayOf decision backlog) h Q (fun _ _ => True) := by
  unfold CommandKernel.submitGated
  simp only [wp_bind, wp_ask]
  refine ⟨trivial, fun safety _ => ?_, fun _ _ => trivial⟩
  split
  · split <;> trivial
  · rw [wp_bind]
    unfold CommandKernel.reraise
    split
    · simp only [wp_pure, wp_ask]
      exact ⟨⟨hmode, ht, hkey⟩, fun o _ => hQ _ o _ (List.suffix_cons _ _), fun _ _ => trivial⟩
    · trivial

theorem wp_submitReplay {c : CommandEnvelope} {p : KernelPrincipal} {replayOf : Uuid}
    {Q : List (Ev KernelCall.Answer Exc) → CommandOperation → Prop} (hmode : q.mode = .reexecute)
    (ht : c.tenantId = q.tenantId) (hkey : q.newIdempotencyKey = some c.idempotencyKey)
    (hQ : ∀ r o h', h <:+ h' → Q (⟨.platform (.submit r), .ok o⟩ :: h') o) :
    wp relies (Replays q) (k.submitReplay c p replayOf) h Q (fun _ _ => True) := by
  unfold CommandKernel.submitReplay
  split
  · trivial
  · split
    · trivial
    · simp only [wp_bind, wp_ask]
      refine ⟨trivial, fun decision _ => ?_, fun _ _ => trivial⟩
      split
      · trivial
      · simp only [wp_bind, wp_tryCatch, wp_map, wp_ask, wp_pure]
        refine ⟨trivial, fun n _ => ?_, fun _ _ => ?_⟩ <;>
          exact wp_submitGated hmode ht hkey fun r o h' hsuffix =>
            hQ r o h' (((List.suffix_cons _ _).trans (List.suffix_cons _ _)).trans hsuffix)

theorem wp_reexecute (hmode : q.mode = .reexecute) (hkey : q.newIdempotencyKey = some newKey) :
    wp relies (Replays q) (k.reexecute q newKey) h (fun _ _ => True) (fun _ _ => True) := by
  unfold CommandKernel.reexecute
  simp only [wp_bind, wp_ask]
  refine ⟨trivial, fun _ _ => ⟨⟨hmode, rfl, rfl, rfl⟩, fun record _ => ?_, fun _ _ => trivial⟩, fun _ _ => trivial⟩
  split
  · exact ⟨trivial, fun reply _ => by cases reply <;> trivial⟩
  · simp only [wp_bind, wp_ask]
    refine ⟨trivial, fun envelope henv => ?_, fun _ _ => trivial⟩
    refine wp_submitReplay hmode henv hkey fun r o h' hsuffix => ?_
    refine ⟨⟨hmode, rfl, ⟨_, record, ?_, rfl⟩, r, o, List.mem_cons_self, rfl⟩, fun _ _ => trivial, fun _ _ => trivial⟩
    exact List.mem_cons_of_mem _ (hsuffix.mem (List.mem_cons_of_mem _ List.mem_cons_self))

theorem obeys_replay (k : CommandKernel) (q : ReplayCommand) :
    wp relies (Replays q) (k.replay q) [] (fun _ _ => True) (fun _ _ => True) := by
  unfold CommandKernel.replay
  split
  · trivial
  · simp only [wp_bind, wp_ask]
    refine ⟨trivial, fun original _ => ?_, fun _ _ => trivial⟩
    split
    · rename_i hmode
      split
      · trivial
      · exact ⟨hmode, fun reply _ => by cases reply <;> trivial⟩
    · rename_i hmode
      split
      · trivial
      · split
        · trivial
        · rename_i hnew
          have hkey : q.newIdempotencyKey = some (q.newIdempotencyKey.getD "") := by
            cases hn : q.newIdempotencyKey with
            | none => simp [hn] at hnew
            | some key => rfl
          split
          · exact wp_reexecute hmode hkey
          · split
            · trivial
            · split
              · trivial
              · exact wp_reexecute hmode hkey

end Walk

theorem replays_obey (j : ReplayJob) : System.Obeys replayDiscipline j (replays.prog j) [] := by
  cases j with
  | replay k q =>
    show wp relies (Replays q) (discard (k.replay q)) [] (fun _ _ => True) (fun _ _ => True)
    rw [wp_discard]
    exact obeys_replay k q
  | other c outsider => exact ⟨rfl, fun reply _ => by cases reply <;> trivial⟩

/-! ## The store under the calls -/

def KernelCall.storeCall : KernelCall → Option StoreCall
  | .platform (.submit r) => some (.ledger (.submit r))
  | .platform (.transition t) => some (.ledger (.transition t))
  | .platform (.reconcile r) => some (.ledger (.reconcile r))
  | .platform (.recordDeadLetter d) => some (.ledger (.recordDeadLetter d))
  | .platform (.mutateOperation m) => some (.ledger (.mutateOperation m))
  | .platform (.busClaim b) => some (.busClaim b)
  | .platform (.busSettle b id outcome) => some (.busSettle b id outcome)
  | .platform (.sourceClaim r lease) => some (.sourceClaim r lease)
  | .platform (.sourceResolve claim r action reason) => some (.sourceResolve claim r action reason)
  | .platform (.sourceRelease claim r reason) => some (.sourceRelease claim r reason)
  | .createReplay r => some (.ledger (.createReplay r))
  | .completeReplay tenantId replayId replayCommandId => some (.ledger (.completeReplay tenantId replayId replayCommandId))
  | .other c => some c
  | .platform _ | .getDeadLetter .. => none

section Store

variable {s s' : MemoryCommandStore} {x : StoreStep}

theorem get_same (tenantId : String) (commandId : Uuid) : (perform (MemoryCommandStore.get tenantId commandId) s).2 = s := by
  unfold MemoryCommandStore.get
  simp only [perform_bind, perform_get]
  split <;> rfl

theorem loadEnvelope_answer (tenantId : String) (commandId : Uuid) :
    (∃ e, perform (MemoryCommandStore.loadEnvelope tenantId commandId) s = (.error e, s)) ∨
    ∃ payload, s.payloads.lookup (tenantId, commandId) = some payload ∧
      perform (MemoryCommandStore.loadEnvelope tenantId commandId) s = (.ok payload.1, s) := by
  unfold MemoryCommandStore.loadEnvelope MemoryCommandStore.get
  simp only [perform_bind, perform_get]
  cases hc : s.commands.lookup (tenantId, commandId) with
  | none => exact .inl ⟨_, rfl⟩
  | some entry =>
    cases hp : s.payloads.lookup (tenantId, commandId) with
    | none => exact .inl ⟨_, by simp [item, hp]; rfl⟩
    | some payload => exact .inr ⟨payload, rfl, by simp [item, hp]⟩

theorem exec_storeCall (i : Input) (c : KernelCall) (s : MemoryCommandStore) :
    (∃ x, c.storeCall = some x ∧ (c.exec i s).2 = StoreStep.exec ⟨x, i.now⟩ s) ∨
    c.storeCall = none ∧ (c.exec i s).2 = s := by
  cases c with
  | platform c =>
    cases c with
    | submit | transition | reconcile | recordDeadLetter | mutateOperation =>
      exact .inl ⟨_, rfl, by simp only [KernelCall.exec, exec, StoreStep.exec, LedgerCall.action, perform_discard]⟩
    | busClaim | busSettle | sourceClaim | sourceResolve | sourceRelease => exact .inl ⟨_, rfl, rfl⟩
    | get tenantId commandId => exact .inr ⟨rfl, get_same tenantId commandId⟩
    | loadEnvelope tenantId commandId =>
      rcases loadEnvelope_answer (s := s) tenantId commandId with ⟨_, h⟩ | ⟨_, -, h⟩
      · exact .inr ⟨rfl, congrArg Prod.snd h⟩
      · exact .inr ⟨rfl, congrArg Prod.snd h⟩
    | latestAttempt tenantId commandId =>
      refine .inr ⟨rfl, ?_⟩
      simp only [KernelCall.exec, exec, latestAttempt, MemoryCommandStore.get, perform_bind, perform_get]
      cases s.commands.lookup (tenantId, commandId) <;> rfl
    | _ => exact .inr ⟨rfl, rfl⟩
  | getDeadLetter tenantId commandId =>
    refine .inr ⟨rfl, ?_⟩
    simp only [KernelCall.exec, MemoryCommandStore.getDeadLetter, perform_bind, perform_get]
    cases s.deadLetters.lookup (tenantId, commandId) <;> rfl
  | createReplay | completeReplay =>
    exact .inl ⟨_, rfl, by simp only [KernelCall.exec, StoreStep.exec, LedgerCall.action, perform_discard]⟩
  | other c => exact .inl ⟨c, rfl, rfl⟩

/-- What holds of the store in every run: the indexes agree, and an envelope is kept under its own tenant. -/
structure Consistent (s : MemoryCommandStore) : Prop where
  wf : WF s
  indexed : Indexed s
  envelopes : ∀ {k payload}, s.payloads.lookup k = some payload → payload.1.tenantId = k.1

theorem Consistent.empty : Consistent {} := ⟨WF.empty, Indexed.empty, fun h => by simp at h⟩

theorem Store.Stored.consistent (h : Stored s x s') (hw : WF s') (hs : Consistent s) : Consistent s' := by
  refine ⟨hw, h.indexed hs.wf hs.indexed, fun {k payload} hl => ?_⟩
  cases h with
  | submitted r =>
    rw [Submission.admitted, lookup_insert_ite] at hl
    split at hl
    · rename_i hk
      cases hl
      rw [hk]
    · exact hs.envelopes hl
  | _ => exact hs.envelopes hl

theorem exec_kernel (hs : Consistent s) (i : Input) (c : KernelCall) : (c.exec i s).2 = s ∨
    ∃ x, c.storeCall = some x ∧ Stored s ⟨x, i.now⟩ (c.exec i s).2 := by
  rcases exec_storeCall i c s with ⟨x, hx, h⟩ | ⟨-, h⟩
  · refine .inr ⟨x, hx, ?_⟩
    rw [h]
    exact exec_stored hs.wf.synced _
  · exact .inl h

theorem replays_sound : System.Sound replays Consistent relies where
  keeps i c s hs := by
    show Consistent (c.exec i s).2
    rcases exec_storeCall i c s with ⟨x, -, h⟩ | ⟨-, h⟩
    · rw [h]
      exact (exec_stored hs.wf.synced _).consistent (Store.exec_wf hs.wf _) hs
    · rw [h]
      exact hs
  answers i c s hs := by
    cases c with
    | platform c =>
      cases c with
      | loadEnvelope tenantId commandId =>
        show relies (.platform (.loadEnvelope tenantId commandId)) (perform (MemoryCommandStore.loadEnvelope tenantId commandId) s).1
        rcases loadEnvelope_answer (s := s) tenantId commandId with ⟨e, h⟩ | ⟨payload, hp, h⟩
        · rw [h]
          trivial
        · rw [h]
          exact hs.envelopes hp
      | _ => trivial
    | _ => trivial

/-! ### Replay records -/

def Names (s : MemoryCommandStore) (tenantId key : String) (commandId : Uuid) : Prop :=
  ∃ digest o, s.idempotency.lookup (tenantId, key) = some (digest, o) ∧ o.commandId = commandId

theorem Names.unique {tenantId key : String} {c c' : Uuid} (h : Names s tenantId key c) (h' : Names s tenantId key c') :
    c = c' := by
  obtain ⟨_, _, hl, rfl⟩ := h
  obtain ⟨_, _, hl', rfl⟩ := h'
  rw [hl] at hl'
  cases hl'
  rfl

/-- An idempotency key never names another command. -/
theorem Names.kept {tenantId key : String} {c : Uuid} (hn : Names s tenantId key c) (hs : Consistent s)
    (h : Stored s x s') : Names s' tenantId key c := by
  obtain ⟨digest, o, hl, rfl⟩ := hn
  have hupdate : ∀ {k : Key} {d : String} {p p' : CommandOperation}, s.commands.lookup k = some (d, p) →
      p'.identity = p.identity → ∃ d' o', (s.idempotency.insert (k.1, p.idempotencyKey) (d, p')).lookup (tenantId, key) =
        some (d', o') ∧ o'.commandId = o.commandId := by
    intro k d p p' hp hid
    rw [lookup_insert_ite]
    split
    · rename_i hk
      obtain ⟨_, o', ho', hcid⟩ := hs.indexed.byKey hp
      rw [← hk, hl] at ho'
      cases ho'
      have hkeyed := hs.wf.keyed hp
      simp only [CommandOperation.identity, Prod.mk.injEq] at hid
      exact ⟨d, p', rfl, by rw [hid.1, hcid, ← hkeyed]⟩
    · exact ⟨digest, o, hl, rfl⟩
  cases h with
  | submitted r call newId newKey =>
    refine ⟨digest, o, ?_, rfl⟩
    rw [Submission.admitted, lookup_insert_ite, if_neg, hl]
    intro hk
    rw [hk, newKey] at hl
    cases hl
  | transitioned t call d p command => exact hupdate command (transition_later t p x.now).identity
  | reconciled r call d p command => exact hupdate command (reconciliation_later r p x.now).identity
  | _ => exact ⟨digest, o, hl, rfl⟩

/-- A request is stored under its own id, and its key leads to it. -/
structure Requests (s : MemoryCommandStore) : Prop where
  byKey : ∀ {tenantId commandId key replayId}, s.replayKeys.lookup (tenantId, commandId, key) = some replayId →
    ∃ record, s.replays.lookup (tenantId, replayId) = some record ∧ record.originalCommandId = commandId ∧
      record.idempotencyKey = key
  byId : ∀ {tenantId replayId record}, s.replays.lookup (tenantId, replayId) = some record → record.replayId = replayId

theorem Requests.empty : Requests {} := ⟨fun h => by simp at h, fun h => by simp at h⟩

/-- A request keeps its operation and its key. -/
structure SameRequest (record record' : ReplayRecord) : Prop where
  replayId : record'.replayId = record.replayId
  originalCommandId : record'.originalCommandId = record.originalCommandId
  idempotencyKey : record'.idempotencyKey = record.idempotencyKey

theorem SameRequest.refl (record : ReplayRecord) : SameRequest record record := ⟨rfl, rfl, rfl⟩

/-- The step does not draw the id of a replay that exists. -/
def FreshRequest (s : MemoryCommandStore) (x : StoreStep) : Prop :=
  ∀ r, x.call = .ledger (.createReplay r) → s.replays.lookup (r.tenantId, r.replayId) = none

variable {tenantId : String} {replayId : Uuid} {record record' : ReplayRecord}

theorem request_kept (h : Stored s x s') (hfresh : FreshRequest s x)
    (hl : s.replays.lookup (tenantId, replayId) = some record) :
    ∃ record', s'.replays.lookup (tenantId, replayId) = some record' ∧ SameRequest record record' ∧
      (record'.replayCommandId = record.replayCommandId ∨
        ∃ c, x.call = .ledger (.completeReplay tenantId replayId c) ∧ record'.replayCommandId = some c) := by
  cases h with
  | requested r call new fields =>
    refine ⟨record, ?_, .refl record, .inl rfl⟩
    rw [lookup_insert_ite, if_neg, hl]
    intro hk
    rw [hk, hfresh r call] at hl
    cases hl
  | completed t id c call row found =>
    rw [lookup_insert_ite]
    split
    · rename_i hk
      cases hk
      rw [hl] at found
      cases found
      exact ⟨_, rfl, ⟨rfl, rfl, rfl⟩, .inr ⟨c, call, rfl⟩⟩
    · exact ⟨record, hl, .refl record, .inl rfl⟩
  | withdrawn t id call row found =>
    rw [lookup_insert_ite]
    split
    · rename_i hk
      cases hk
      rw [hl] at found
      cases found
      exact ⟨_, rfl, ⟨rfl, rfl, rfl⟩, .inl rfl⟩
    · exact ⟨record, hl, .refl record, .inl rfl⟩
  | _ => exact ⟨record, hl, .refl record, .inl rfl⟩

theorem request_source (h : Stored s x s') (hl : s'.replays.lookup (tenantId, replayId) = some record') :
    (∃ record, s.replays.lookup (tenantId, replayId) = some record) ∨
    record'.replayId = replayId ∧ record'.replayCommandId = none := by
  cases h with
  | requested r call new fields =>
    rw [lookup_insert_ite] at hl
    split at hl
    · rename_i hk
      cases hk
      cases hl
      exact .inr ⟨fields.1, fields.2.2.2⟩
    · exact .inl ⟨record', hl⟩
  | completed t id c call row found =>
    rw [lookup_insert_ite] at hl
    split at hl
    · rename_i hk
      exact .inl ⟨row, by rw [hk, found]⟩
    · exact .inl ⟨record', hl⟩
  | withdrawn t id call row found =>
    rw [lookup_insert_ite] at hl
    split at hl
    · rename_i hk
      exact .inl ⟨row, by rw [hk, found]⟩
    · exact .inl ⟨record', hl⟩
  | _ => exact .inl ⟨record', hl⟩

theorem Requests.kept (hr : Requests s) (h : Stored s x s') (hfresh : FreshRequest s x) : Requests s' := by
  have hold : ∀ {t c key id}, s.replayKeys.lookup (t, c, key) = some id → ∃ record,
      s'.replays.lookup (t, id) = some record ∧ record.originalCommandId = c ∧ record.idempotencyKey = key := by
    intro t c key id hl
    obtain ⟨record, hrec, rfl, rfl⟩ := hr.byKey hl
    obtain ⟨record', hrec', hsame, -⟩ := request_kept h hfresh hrec
    exact ⟨record', hrec', hsame.originalCommandId, hsame.idempotencyKey⟩
  refine ⟨fun {t c key id} hl => ?_, fun {t id record'} hl => ?_⟩
  · cases h with
    | requested r call new fields =>
      rw [lookup_insert_ite] at hl
      split at hl
      · rename_i hk
        cases hk
        cases hl
        exact ⟨new, AList.lookup_insert _, fields.2.1, fields.2.2.1⟩
      · exact hold hl
    | _ => exact hold hl
  · rcases request_source h hl with ⟨record, hrec⟩ | ⟨hid, -⟩
    · obtain ⟨record'', hrec'', hsame, -⟩ := request_kept h hfresh hrec
      rw [hl] at hrec''
      cases hrec''
      rw [hsame.replayId]
      exact hr.byId hrec
    · exact hid

theorem createReplay_answer {r : ReplayRequest} {now : Time} (hr : Requests s)
    (h : perform (createReplay r now) s = (.ok record, s')) :
    s'.replays.lookup (r.tenantId, record.replayId) = some record ∧ record.originalCommandId = r.commandId ∧
      record.idempotencyKey = r.idempotencyKey := by
  rcases createReplay_store (s := s) r now with ⟨_, h'⟩ | ⟨id, found, hkey, hid, h'⟩ | ⟨new, hfields, h'⟩
  · rw [h'] at h
    cases h
  · rw [h'] at h
    cases h
    obtain ⟨found', hid', hop, hk⟩ := hr.byKey hkey
    rw [hid] at hid'
    cases hid'
    rw [hr.byId hid]
    exact ⟨hid, hop, hk⟩
  · rw [h'] at h
    cases h
    rw [hfields.1]
    exact ⟨AList.lookup_insert _, hfields.2.1, hfields.2.2.1⟩

theorem submit_answer {r : Submission} {now : Time} {o : CommandOperation} (hid : s.commands.lookup r.key = none)
    (h : perform (submit r now) s = (.ok o, s')) :
    Names s' r.command.tenantId r.command.idempotencyKey o.commandId := by
  rcases submit_store (s := s) r now with ⟨-, -, -, h'⟩ | ⟨digest, found, hfound, -, h'⟩ | ⟨_, h'⟩
  · rw [h'] at h
    cases h
    exact ⟨_, _, by rw [Submission.admitted, AList.lookup_insert], rfl⟩
  · rw [h'] at h
    cases h
    rcases hfound with hfound | ⟨-, hfound⟩
    · rw [hid] at hfound
      cases hfound
    · exact ⟨digest, found, hfound, rfl⟩
  · rw [h'] at h
    cases h

end Store

/-! ## Runs -/

/-- The re-executions of one operation under one replay key. -/
structure ReplayGroup where
  tenantId : String
  operationId : Uuid
  idempotencyKey : String

def ReplayCommand.reexecutes (g : ReplayGroup) (q : ReplayCommand) : Bool :=
  q.mode = .reexecute ∧ q.tenantId = g.tenantId ∧ q.operationId = g.operationId ∧ q.idempotencyKey = g.idempotencyKey

def ReplayJob.reexecutes (g : ReplayGroup) : ReplayJob → Bool
  | .replay _ q => q.reexecutes g
  | .other .. => false

namespace ReplayGroup

/-- Whether a re-execution of the group made the call. -/
def made (g : ReplayGroup) (w : ReplayRun) (e : ReplayEntry) : Bool := (w.procs[e.pid]?).any (·.job.reexecutes g)

/-- The commands the re-executions of the group created. -/
def newCommands (g : ReplayGroup) (w : ReplayRun) : List Key :=
  w.log.flatMap fun e => if g.made w e then e.after.commands.keys.filter (· ∉ e.before.commands.keys) else []

def newIntents (g : ReplayGroup) (w : ReplayRun) : List MemoryOutboxIntent :=
  w.log.flatMap fun e => if g.made w e then e.after.outbox.drop e.before.outbox.length else []

end ReplayGroup

/-- One replay request creates at most one command. -/
structure OneReplay (g : ReplayGroup) (w : ReplayRun) : Prop where
  commands : (g.newCommands w).length ≤ 1
  intents : (g.newIntents w).length ≤ 1
  named : ∀ e ∈ w.log, ∀ replayId record c, e.before.replays.lookup (g.tenantId, replayId) = some record →
    record.originalCommandId = g.operationId → record.idempotencyKey = g.idempotencyKey →
    record.replayCommandId = some c →
    ∃ record', e.after.replays.lookup (g.tenantId, replayId) = some record' ∧ record'.replayCommandId = some c

/-- `uuid4` draws ids that are not in use: for the replay request and for the command of a re-execution. -/
def FreshUuids (log : List ReplayEntry) : Prop :=
  ∀ e ∈ log, (∀ r, e.op = .createReplay r → e.before.replays.lookup (r.tenantId, r.replayId) = none) ∧
    ∀ r, e.op = .platform (.submit r) → e.before.commands.lookup r.key = none

/-- The re-executions of the group all carry one new idempotency key. -/
def SameNewKey (g : ReplayGroup) (actions : List ReplayStep) : Prop :=
  ∀ k q i k' q' i', .spawn (.replay k q) i ∈ actions → .spawn (.replay k' q') i' ∈ actions →
    q.reexecutes g → q'.reexecutes g → q.newIdempotencyKey = q'.newIdempotencyKey

section Run

variable {jobs : List ReplayJob} {log : List ReplayEntry} {s : MemoryCommandStore} {e : ReplayEntry}

abbrev LegalReplays (jobs : List ReplayJob) (log : List ReplayEntry) (s : MemoryCommandStore) : Prop :=
  System.Legal replays Consistent replayDiscipline {} jobs log s

theorem replay_calls {j : ReplayJob} {h : List (Ev KernelCall.Answer Exc)} {c : KernelCall} {x : StoreCall}
    (hcall : replayDiscipline.call j h c) (hx : c.storeCall = some x) (hin : x.outsider = false) :
    ∃ k q, j = .replay k q ∧ Replays q h c ∧ c ≠ .other x := by
  cases j with
  | replay k q =>
    refine ⟨k, q, rfl, hcall, ?_⟩
    rintro rfl
    exact hcall
  | other y outsider =>
    have hc : c = .other y := hcall
    rw [hc] at hx
    cases hx
    rw [outsider] at hin
    cases hin

theorem entry_stored (h : LegalReplays jobs log s) (fresh : FreshUuids log) (he : e ∈ log) : Consistent e.before ∧
    (e.after = e.before ∨
      ∃ x, e.op.storeCall = some x.call ∧ Stored e.before x e.after ∧ FreshRequest e.before x) := by
  obtain ⟨newer, older, rfl⟩ := List.append_of_mem he
  have hlaw := h.lawful newer e older rfl
  obtain ⟨i, hexec⟩ := hlaw.exec
  have hafter : e.after = (e.op.exec i e.before).2 := by
    show e.after = (replays.exec i e.op e.before).2
    rw [hexec]
  refine ⟨hlaw.inv, ?_⟩
  rcases exec_kernel hlaw.inv i e.op with hsame | ⟨x, hx, hst⟩
  · exact .inl (hafter.trans hsame)
  · refine .inr ⟨⟨x, i.now⟩, hx, hafter ▸ hst, ?_⟩
    rintro r hr
    obtain rfl : x = .ledger (.createReplay r) := hr
    obtain ⟨j, -, hcall⟩ := hlaw.job
    obtain ⟨k, q, -, -, hne⟩ := replay_calls hcall hx rfl
    refine (fresh e he).1 r ?_
    cases hop : e.op with
    | platform c => rw [hop] at hx; cases c <;> cases hx
    | createReplay r' => rw [hop] at hx; cases hx; rfl
    | other y => rw [hop] at hx hne; cases hx; exact absurd rfl hne
    | getDeadLetter | completeReplay => rw [hop] at hx; cases hx

/-- What every step of the store keeps is kept between two entries of a log. -/
theorem persists {P : MemoryCommandStore → Prop} {s₁ s₂ : MemoryCommandStore} {part : List ReplayEntry}
    (hP : ∀ {s x s'}, Consistent s → FreshRequest s x → Stored s x s' → P s → P s')
    (h : LegalReplays jobs log s) (fresh : FreshUuids log) (hpart : ∀ e ∈ part, e ∈ log) (hc : System.Chain s₁ part s₂)
    (h₁ : P s₁) : P s₂ := by
  refine (System.Chain.stays hc h₁ fun e he hb => ?_).1
  obtain ⟨hcons, hsame | ⟨x, -, hst, hfresh⟩⟩ := entry_stored h fresh (hpart e he)
  · rw [hsame]
    exact hb
  · exact hP hcons hfresh hst hb

theorem log_requests (h : LegalReplays jobs log s) (fresh : FreshUuids log) : Requests s :=
  persists (fun _ hfresh hst hr => hr.kept hst hfresh) h fresh (fun _ he => he) h.chain Requests.empty

theorem made_before {older : List ReplayEntry} {s : MemoryCommandStore} {pid : Nat} {v : Ev KernelCall.Answer Exc}
    {j : ReplayJob} (h : LegalReplays jobs older s) (hj : jobs[pid]? = some j) (hv : v ∈ hist older pid) :
    ∃ e i newer older', older = newer ++ e :: older' ∧ e.toEv = v ∧ System.Chain e.after newer s ∧
      LegalReplays jobs older' e.before ∧ replayDiscipline.call j (hist older' pid) e.op ∧
      e.op.exec i e.before = (e.reply, e.after) := by
  obtain ⟨newer, e, older', rfl, rfl, hev, hchain⟩ := h.of_hist hv
  obtain ⟨hlaw, hlegal⟩ := h.split
  obtain ⟨j', hj', hcall⟩ := hlaw.job
  rw [hj] at hj'
  cases hj'
  obtain ⟨i, hexec⟩ := hlaw.exec
  exact ⟨e, i, newer, older', rfl, hev, hchain, hlegal, hcall, hexec⟩

theorem completes {newer older : List ReplayEntry} {tenantId : String} {replayId c : Uuid}
    (h : LegalReplays jobs log s) (fresh : FreshUuids log) (hlog : log = newer ++ e :: older)
    (hop : e.op = .completeReplay tenantId replayId c) :
    ∃ k q key, jobs[e.pid]? = some (.replay k q) ∧ q.mode = .reexecute ∧ tenantId = q.tenantId ∧
      q.newIdempotencyKey = some key ∧ Names e.before tenantId key c ∧
      ∃ record, e.before.replays.lookup (tenantId, replayId) = some record ∧
        record.originalCommandId = q.operationId ∧ record.idempotencyKey = q.idempotencyKey := by
  have hin : ∀ e' ∈ older, e' ∈ log := fun e' he' => by rw [hlog]; simp [he']
  obtain ⟨hlaw, hlegal⟩ := (hlog ▸ h).split
  obtain ⟨j, hj, hcall⟩ := hlaw.job
  rw [hop] at hcall
  obtain ⟨k, q, rfl, hq, -⟩ := replay_calls hcall
    (show _ = some (StoreCall.ledger (.completeReplay tenantId replayId c)) from rfl) rfl
  obtain ⟨hmode, rfl, ⟨r, record, hcreate, rfl⟩, r', o, hsubmit, rfl⟩ := hq
  have hfresh : FreshUuids older := fun e' he' => fresh e' (hin e' he')
  -- the request was made by this process, and is still there
  have hrecord : ∃ record', e.before.replays.lookup (q.tenantId, record.replayId) = some record' ∧
      record'.originalCommandId = q.operationId ∧ record'.idempotencyKey = q.idempotencyKey := by
    obtain ⟨e₁, i, newer₁, older₁, hsplit, hev, hchain, hlegal₁, hcall₁, hexec⟩ := made_before hlegal hj hcreate
    have hin₁ : ∀ e' ∈ newer₁, e' ∈ older := fun e' he' => by rw [hsplit]; simp [he']
    have hreq : Requests e₁.before := log_requests hlegal₁ fun e' he' => hfresh e' (by rw [hsplit]; simp [he'])
    obtain ⟨⟨op, reply⟩, pid, before, after⟩ := e₁
    cases hev
    obtain ⟨-, ht, hc, hk⟩ := hcall₁
    obtain ⟨hl, horiginal, hkey⟩ := createReplay_answer hreq hexec
    refine persists (P := fun s => ∃ record', s.replays.lookup (q.tenantId, record.replayId) = some record' ∧
      record'.originalCommandId = q.operationId ∧ record'.idempotencyKey = q.idempotencyKey)
      ?_ hlegal hfresh hin₁ hchain ⟨record, ht ▸ hl, horiginal.trans hc, hkey.trans hk⟩
    rintro s x s' - hx hst ⟨row, hrow, ho, hi⟩
    obtain ⟨row', hrow', hsame, -⟩ := request_kept hst hx hrow
    exact ⟨row', hrow', hsame.originalCommandId.trans ho, hsame.idempotencyKey.trans hi⟩
  -- and so was the command, under the new key
  obtain ⟨e₂, i, newer₂, older₂, hsplit, hev, hchain, -, hcall₂, hexec⟩ := made_before hlegal hj hsubmit
  have hin₂ : ∀ e' ∈ newer₂, e' ∈ older := fun e' he' => by rw [hsplit]; simp [he']
  have hfresh₂ := (hfresh e₂ (by rw [hsplit]; simp)).2
  obtain ⟨⟨op, reply⟩, pid, before, after⟩ := e₂
  cases hev
  obtain ⟨-, ht, hkey⟩ := hcall₂
  have hnames : Names after q.tenantId r'.command.idempotencyKey o.commandId := ht ▸ submit_answer (hfresh₂ r' rfl) hexec
  have hkept : Names e.before q.tenantId r'.command.idempotencyKey o.commandId :=
    persists (P := fun s => Names s q.tenantId r'.command.idempotencyKey o.commandId)
      (fun hs _ hst hn => hn.kept hs hst) hlegal hfresh hin₂ hchain hnames
  exact ⟨k, q, _, hj, hmode, rfl, hkey, hkept, hrecord⟩

theorem completes_op {x : StoreStep} {tenantId : String} {replayId c : Uuid} (h : LegalReplays jobs log s) (he : e ∈ log)
    (hop : e.op.storeCall = some x.call) (hx : x.call = .ledger (.completeReplay tenantId replayId c)) :
    e.op = .completeReplay tenantId replayId c := by
  obtain ⟨newer, older, rfl⟩ := List.append_of_mem he
  obtain ⟨j, -, hcall⟩ := (h.lawful newer e older rfl).job
  rw [hx] at hop
  obtain ⟨k, q, -, -, hne⟩ := replay_calls hcall hop rfl
  cases ho : e.op with
  | platform c => rw [ho] at hop; cases c <;> cases hop
  | completeReplay => rw [ho] at hop; cases hop; rfl
  | other y => rw [ho] at hop hne; cases hop; exact absurd rfl hne
  | getDeadLetter | createReplay => rw [ho] at hop; cases hop

end Run

/-! ## At most one command -/

/-- Every re-execution of the group that carries a key carries `newKey`. -/
def CarriesKey (g : ReplayGroup) (jobs : List ReplayJob) (newKey : String) : Prop :=
  ∀ k q key, .replay k q ∈ jobs → q.reexecutes g = true → q.newIdempotencyKey = some key → key = newKey

section Group

variable {g : ReplayGroup} {newKey : String} {jobs : List ReplayJob} {log : List ReplayEntry} {s s' : MemoryCommandStore}
  {e : ReplayEntry} {x : StoreStep}

theorem reexecutes_iff {q : ReplayCommand} : q.reexecutes g = true ↔
    q.mode = .reexecute ∧ q.tenantId = g.tenantId ∧ q.operationId = g.operationId ∧ q.idempotencyKey = g.idempotencyKey := by
  simp [ReplayCommand.reexecutes]

/-- A request of the group that names a command names the one under the new key. -/
def NamedByKey (g : ReplayGroup) (newKey : String) (s : MemoryCommandStore) : Prop :=
  ∀ replayId record c, s.replays.lookup (g.tenantId, replayId) = some record →
    record.originalCommandId = g.operationId → record.idempotencyKey = g.idempotencyKey →
    record.replayCommandId = some c → Names s g.tenantId newKey c

theorem completes_group {newer older : List ReplayEntry} {replayId c : Uuid} {record : ReplayRecord}
    (carries : CarriesKey g jobs newKey) (h : LegalReplays jobs log s) (fresh : FreshUuids log)
    (hlog : log = newer ++ e :: older) (hop : e.op = .completeReplay g.tenantId replayId c)
    (hl : e.before.replays.lookup (g.tenantId, replayId) = some record)
    (ho : record.originalCommandId = g.operationId) (hk : record.idempotencyKey = g.idempotencyKey) :
    Names e.before g.tenantId newKey c := by
  obtain ⟨k, q, key, hj, hmode, ht, hkey, hnames, record', hl', ho', hk'⟩ := completes h fresh hlog hop
  rw [hl] at hl'
  cases hl'
  have hgroup : q.reexecutes g = true :=
    reexecutes_iff.2 ⟨hmode, ht.symm, ho'.symm.trans ho, hk'.symm.trans hk⟩
  rw [← carries k q key (List.mem_of_getElem? hj) hgroup hkey]
  exact hnames

/-- By induction on the log: a request is completed only by a replay of its group. -/
theorem log_named (carries : CarriesKey g jobs newKey) :
    ∀ {log : List ReplayEntry} {s : MemoryCommandStore}, LegalReplays jobs log s → FreshUuids log → NamedByKey g newKey s
  | [], s, h, _ => by
    have hs : s = {} := h.chain
    subst hs
    exact fun _ _ _ hl => by simp at hl
  | e :: older, s, h, fresh => by
    have hlog : e :: older = [] ++ e :: older := rfl
    obtain ⟨-, hlegal⟩ := (hlog ▸ h).split
    have ih := log_named carries hlegal fun e' he' => fresh e' (List.mem_cons_of_mem _ he')
    have hafter : e.after = s := h.chain.1
    subst hafter
    obtain ⟨hcons, hsame | ⟨x, hop, hst, hfresh⟩⟩ := entry_stored h fresh List.mem_cons_self
    · rw [hsame]
      exact ih
    · intro replayId record' c hl ho hk hc
      rcases request_source hst hl with ⟨record, hrec⟩ | ⟨-, hnone⟩
      · obtain ⟨record'', hrec'', hsame, hnamed⟩ := request_kept hst hfresh hrec
        rw [hl] at hrec''
        cases hrec''
        have ho' := hsame.originalCommandId.symm.trans ho
        have hk' := hsame.idempotencyKey.symm.trans hk
        rcases hnamed with hnamed | ⟨c', hcall, hnamed⟩
        · exact (ih replayId record c hrec ho' hk' (hnamed ▸ hc)).kept hcons hst
        · rw [hc] at hnamed
          cases hnamed
          have hcompletes := completes_op h List.mem_cons_self hop hcall
          exact (completes_group carries h fresh hlog hcompletes hrec ho' hk').kept hcons hst
      · rw [hnone] at hc
        cases hc

theorem new_keys {V : Type} {d : Dict Key V} {k k' : Key} {v : V} (h : k' ∈ (d.insert k v).keys.filter (· ∉ d.keys)) :
    k' = k ∧ k' ∉ d := by
  obtain ⟨hk, hnew⟩ := List.mem_filter.1 h
  have hnew : k' ∉ d := fun hd => of_decide_eq_true hnew (AList.mem_keys.1 hd)
  exact ⟨((AList.mem_insert d).1 (AList.mem_keys.2 hk)).resolve_right hnew, hnew⟩

theorem keys_overwritten {V : Type} {d : Dict Key V} {k : Key} {v w : V} (h : d.lookup k = some v) :
    (d.insert k w).keys.filter (· ∉ d.keys) = [] := by
  refine List.eq_nil_iff_forall_not_mem.2 fun k' hk' => ?_
  obtain ⟨rfl, hnew⟩ := new_keys hk'
  exact hnew (AList.lookup_isSome.1 (by rw [h]; rfl))

theorem keys_inserted {V : Type} (d : Dict Key V) (k : Key) (v : V) :
    ((d.insert k v).keys.filter (· ∉ d.keys)).length ≤ 1 := by
  have hnodup := (AList.keys_nodup (d.insert k v)).filter (· ∉ d.keys)
  have hall : ∀ k' ∈ (d.insert k v).keys.filter (· ∉ d.keys), k' = k := fun _ hk' => (new_keys hk').1
  generalize (d.insert k v).keys.filter (· ∉ d.keys) = l at hnodup hall
  match l with
  | [] | [_] => simp
  | a :: b :: l =>
    rw [hall a (by simp), hall b (by simp)] at hnodup
    simp at hnodup

/-- Commands and intents are added by submissions; intents by operators' mutations too. -/
theorem Store.Stored.adds (h : Stored s x s') :
    (s'.commands.keys.filter (· ∉ s.commands.keys) = [] ∧ s'.outbox.drop s.outbox.length = []) ∨
    (∃ m, x.call = .ledger (.mutateOperation m)) ∨
    ∃ r, x.call = .ledger (.submit r) ∧
      s.idempotency.lookup (r.command.tenantId, r.command.idempotencyKey) = none ∧ s' = r.admitted s x.now := by
  have hsame : s.commands.keys.filter (· ∉ s.commands.keys) = [] ∧ s.outbox.drop s.outbox.length = [] :=
    ⟨List.filter_eq_nil_iff.2 fun _ hk => by simp [hk], List.drop_length⟩
  cases h with
  | submitted r call newId newKey => exact .inr (.inr ⟨r, call, newKey, rfl⟩)
  | transitioned t call digest o command => exact .inl ⟨keys_overwritten command, hsame.2⟩
  | reconciled r call digest o command => exact .inl ⟨keys_overwritten command, hsame.2⟩
  | mutated m call => exact .inr (.inl ⟨m, call⟩)
  | rows f => exact .inl ⟨hsame.1, List.drop_eq_nil_iff.2 (by simp)⟩
  | same | deadLettered | requested | completed | withdrawn => exact .inl hsame

theorem group_adds {w : ReplayRun} (carries : CarriesKey g (w.procs.map (·.job)) newKey)
    (h : LegalReplays (w.procs.map (·.job)) w.log w.shared) (fresh : FreshUuids w.log) (he : e ∈ w.log)
    (hmade : g.made w e = true) :
    (e.after.commands.keys.filter (· ∉ e.before.commands.keys) = [] ∧ e.after.outbox.drop e.before.outbox.length = []) ∨
    (¬ ∃ c, Names e.before g.tenantId newKey c) ∧ (∃ c, Names e.after g.tenantId newKey c) ∧
      (e.after.commands.keys.filter (· ∉ e.before.commands.keys)).length ≤ 1 ∧
      (e.after.outbox.drop e.before.outbox.length).length ≤ 1 := by
  obtain ⟨p, hp, hjob⟩ := (Option.any_eq_true _ _).1 hmade
  obtain ⟨newer, older, hlog⟩ := List.append_of_mem he
  obtain ⟨j, hj, hcall⟩ := (h.lawful newer e older hlog).job
  rw [List.getElem?_map, hp] at hj
  obtain rfl : p.job = j := Option.some.inj hj
  obtain ⟨k, q, hpq⟩ : ∃ k q, p.job = .replay k q := by
    cases hpj : p.job with
    | replay k q => exact ⟨k, q, rfl⟩
    | other => rw [hpj] at hjob; cases hjob
  rw [hpq] at hjob hcall
  obtain ⟨hmode, ht, -, -⟩ := reexecutes_iff.1 (show q.reexecutes g = true from hjob)
  have hmem : .replay k q ∈ w.procs.map (·.job) := hpq ▸ List.mem_map_of_mem (List.mem_of_getElem? hp)
  obtain ⟨hcons, hsame | ⟨x, hop, hst, -⟩⟩ := entry_stored h fresh he
  · rw [hsame]
    exact .inl ⟨List.filter_eq_nil_iff.2 fun _ hk => by simp [hk], List.drop_length⟩
  · rcases hst.adds with hnone | ⟨m, hx⟩ | ⟨r, hx, hnew, hafter⟩
    · exact .inl hnone
    · -- a re-execution mutates nothing
      rw [hx] at hop
      have hq : Replays q (hist older e.pid) e.op := hcall
      cases ho : e.op with
      | platform c =>
        rw [ho] at hop hq
        cases c <;> cases hop
        cases hmode.symm.trans hq
      | other => rw [ho] at hq; exact hq.elim
      | getDeadLetter | createReplay | completeReplay => rw [ho] at hop; cases hop
    · rw [hx] at hop
      have hq : Replays q (hist older e.pid) e.op := hcall
      have hr : r.command.tenantId = q.tenantId ∧ q.newIdempotencyKey = some r.command.idempotencyKey := by
        cases ho : e.op with
        | platform c =>
          rw [ho] at hop hq
          cases c <;> cases hop
          exact hq.2
        | other => rw [ho] at hq; exact hq.elim
        | getDeadLetter | createReplay | completeReplay => rw [ho] at hop; cases hop
      have hkey := carries k q _ hmem hjob hr.2
      rw [hr.1, ht, hkey] at hnew
      have hafterKey : e.after.idempotency.lookup (g.tenantId, newKey) =
          some (authenticatedCommandDigest r.command r.authenticatedClientId, r.operation x.now) := by
        rw [hafter, Submission.admitted, ← ht, ← hr.1, ← hkey, AList.lookup_insert]
      refine .inr ⟨?_, ⟨r.command.commandId, _, _, hafterKey, rfl⟩, ?_, ?_⟩
      · rintro ⟨c, _, _, hl, -⟩
        rw [hnew] at hl
        cases hl
      · rw [hafter]
        exact keys_inserted _ _ _
      · rw [hafter, Submission.admitted, List.drop_left]
        rfl

theorem names_kept (h : LegalReplays jobs log s) (fresh : FreshUuids log) (he : e ∈ log) {tenantId key : String}
    (hb : ∃ c, Names e.before tenantId key c) : ∃ c, Names e.after tenantId key c := by
  obtain ⟨c, hc⟩ := hb
  obtain ⟨hcons, hsame | ⟨x, -, hst, -⟩⟩ := entry_stored h fresh he
  · exact ⟨c, hsame ▸ hc⟩
  · exact ⟨c, hc.kept hcons hst⟩

theorem named_kept {replayId c : Uuid} {record : ReplayRecord} (carries : CarriesKey g jobs newKey)
    (h : LegalReplays jobs log s) (fresh : FreshUuids log) (he : e ∈ log)
    (hl : e.before.replays.lookup (g.tenantId, replayId) = some record) (ho : record.originalCommandId = g.operationId)
    (hk : record.idempotencyKey = g.idempotencyKey) (hc : record.replayCommandId = some c) :
    ∃ record', e.after.replays.lookup (g.tenantId, replayId) = some record' ∧ record'.replayCommandId = some c := by
  obtain ⟨-, hsame | ⟨x, hop, hst, hfresh⟩⟩ := entry_stored h fresh he
  · exact ⟨record, hsame ▸ hl, hc⟩
  · obtain ⟨record', hl', -, hnamed | ⟨c', hcall, hnamed⟩⟩ := request_kept hst hfresh hl
    · exact ⟨record', hl', hnamed.trans hc⟩
    · obtain ⟨newer, older, rfl⟩ := List.append_of_mem he
      have hcompletes := completes_op h he hop hcall
      have hnew := completes_group carries h fresh rfl hcompletes hl ho hk
      have hold := log_named carries h.split.2 (fun e' he' => fresh e' (by simp [he'])) replayId record c hl ho hk hc
      exact ⟨record', hl', hnamed.trans (congrArg some (hnew.unique hold))⟩

end Group

theorem run_replays_legal (actions : List ReplayStep) :
    LegalReplays ((runReplays actions).procs.map (·.job)) (runReplays actions).log (runReplays actions).shared :=
  (System.run_good replays_sound replays_obey Consistent.empty actions).legal

theorem carries_key {g : ReplayGroup} {actions : List ReplayStep} (same : SameNewKey g actions) :
    ∃ newKey, CarriesKey g ((runReplays actions).procs.map (·.job)) newKey := by
  have hstarted : ∀ {j : ReplayJob}, j ∈ (runReplays actions).procs.map (·.job) → ∃ i, .spawn j i ∈ actions :=
    fun hj => (System.run_jobs replays hj).resolve_left (by simp)
  by_cases hany : ∃ k q key, .replay k q ∈ (runReplays actions).procs.map (·.job) ∧ q.reexecutes g = true ∧
      q.newIdempotencyKey = some key
  · obtain ⟨k, q, key, hj, hq, hkey⟩ := hany
    refine ⟨key, fun k' q' key' hj' hq' hkey' => ?_⟩
    obtain ⟨i, hi⟩ := hstarted hj
    obtain ⟨i', hi'⟩ := hstarted hj'
    have := same k' q' i' k q i hi' hi hq' hq
    rw [hkey, hkey'] at this
    exact Option.some.inj this
  · exact ⟨"", fun k q key hj hq hkey => absurd ⟨k, q, key, hj, hq, hkey⟩ hany⟩

/-- In every run whose re-executions of an operation under one replay key carry one new idempotency key, they create
at most one command. -/
theorem one_replay (g : ReplayGroup) (actions : List ReplayStep) (fresh : FreshUuids (runReplays actions).log)
    (same : SameNewKey g actions) : OneReplay g (runReplays actions) := by
  obtain ⟨newKey, carries⟩ := carries_key same
  have h := run_replays_legal actions
  have honce : ∀ {β : Type} (added : ReplayEntry → List β),
      (∀ e ∈ (runReplays actions).log, added e = [] ∨ (¬ ∃ c, Names e.before g.tenantId newKey c) ∧
        (∃ c, Names e.after g.tenantId newKey c) ∧ (added e).length ≤ 1) →
      ((runReplays actions).log.flatMap added).length ≤ 1 := fun added hadds =>
    (System.Chain.once (P := fun s => ∃ c, Names s g.tenantId newKey c) h.chain (fun e he => names_kept h fresh he) hadds).1
  refine ⟨honce _ fun e he => ?_, honce _ fun e he => ?_, fun e he replayId record c hl ho hk hc =>
    named_kept carries h fresh he hl ho hk hc⟩
  · by_cases hmade : g.made (runReplays actions) e = true
    · rw [if_pos hmade]
      rcases group_adds carries h fresh he hmade with ⟨hnone, -⟩ | ⟨hb, ha, hone, -⟩
      · exact .inl hnone
      · exact .inr ⟨hb, ha, hone⟩
    · exact .inl (if_neg hmade)
  · by_cases hmade : g.made (runReplays actions) e = true
    · rw [if_pos hmade]
      rcases group_adds carries h fresh he hmade with ⟨-, hnone⟩ | ⟨hb, ha, -, hone⟩
      · exact .inl hnone
      · exact .inr ⟨hb, ha, hone⟩
    · exact .inl (if_neg hmade)

/-! ## Two runs -/

/-- Whether the ids the entry draws are new. -/
def freshEntry (e : ReplayEntry) : Bool :=
  match e.op with
  | .createReplay r => (e.before.replays.lookup (r.tenantId, r.replayId)).isNone
  | .platform (.submit r) => (e.before.commands.lookup r.key).isNone
  | _ => true

theorem fresh_of_check {log : List ReplayEntry} (h : log.all freshEntry = true) : FreshUuids log := by
  intro e he
  have hcheck := List.all_eq_true.1 h e he
  refine ⟨fun r hop => ?_, fun r hop => ?_⟩
  · simpa [freshEntry, hop] using hcheck
  · simpa [freshEntry, hop] using hcheck

/-- Whether the action starts no replay, or one with the key. -/
def startsWith (newKey : String) (a : ReplayStep) : Bool :=
  match a with
  | .spawn (.replay _ q) _ => q.newIdempotencyKey == some newKey
  | _ => true

theorem same_of_check {g : ReplayGroup} {actions : List ReplayStep} {newKey : String}
    (h : actions.all (startsWith newKey) = true) : SameNewKey g actions := by
  intro k q i k' q' i' hq hq' _ _
  have h₁ := List.all_eq_true.1 h _ hq
  have h₂ := List.all_eq_true.1 h _ hq'
  simp only [startsWith, beq_iff_eq] at h₁ h₂
  rw [h₁, h₂]

namespace Synthetic

def beside (c : LedgerCall) (outsider : (StoreCall.ledger c).outsider = true := by rfl) : ReplayStep :=
  .spawn (.other (.ledger c) outsider) input

def enter (state : CommandState) : ReplayStep :=
  beside (.transition
    { tenantId := key.1, commandId := key.2, newState := state, actorId := "bus", reason := "rejected" })

/-- The command failed and left a dead letter. -/
def failedCommand : List ReplayStep :=
  [beside (.submit
      { command := envelope, authenticatedClientId := "middleware-api", destination := adapterCommandDestination }),
    .resume 0 input, enter .queued, .resume 1 input, enter .dispatching, .resume 2 input, enter .failed, .resume 3 input,
    beside (.recordDeadLetter
      { tenantId := key.1, commandId := key.2, actorId := "bus", reasonCode := "rejected", errorClass := "permanent",
        terminalReason := "rejected" }),
    .resume 4 input]

/-- An operator's re-execution, with the ids it draws. -/
def reexecution (newKey : String) (replayId replayCommandId : Uuid) : ReplayStep :=
  .spawn (.replay
    { policies := policies
      registry :=
        { registry with
          advertised := AList.insert "test-syn" { Synthetic.capabilities with safeReexecution := true } ∅ } }
    { tenantId := key.1, operationId := key.2, principal := ⟨"operator-1", "middleware-api"⟩,
      roles := [platformOperatorRole], mode := .reexecute, idempotencyKey := "replay-1", expectedVersion := 1,
      reason := "provider fixed", newIdempotencyKey := some newKey, replayId := replayId,
      replayCommandId := replayCommandId }) input

def replayGroup : ReplayGroup := ⟨key.1, key.2, "replay-1"⟩

/-- The first replay dies after `n` calls; the operator repeats the request. -/
def repeated (n : Nat) (newKey : String) : List ReplayStep :=
  failedCommand ++ [reexecution "retry-1" "r-1" "c-1"] ++ (List.replicate n (.resume 5 input) : List ReplayStep) ++ ([.kill 5,
    reexecution newKey "r-2" "c-2"] : List ReplayStep) ++ (List.replicate 8 (.resume 6 input) : List ReplayStep)

end Synthetic

/-- A replay dies after its command is stored. With another new key the repeated request creates a second command. -/
theorem replay_repeated_under_other_key :
    FreshUuids (runReplays (Synthetic.repeated 6 "retry-2")).log ∧
      ¬ OneReplay Synthetic.replayGroup (runReplays (Synthetic.repeated 6 "retry-2")) := by
  have hfresh : (runReplays (Synthetic.repeated 6 "retry-2")).log.all freshEntry = true := by decide +kernel
  have htwo : (Synthetic.replayGroup.newCommands (runReplays (Synthetic.repeated 6 "retry-2"))).length = 2 := by
    decide +kernel
  refine ⟨fresh_of_check hfresh, fun h => ?_⟩
  have hone := h.commands
  omega

theorem one_replay_repeated :
    (Synthetic.replayGroup.newCommands (runReplays (Synthetic.repeated 7 "retry-1"))).length = 1 ∧
      OneReplay Synthetic.replayGroup (runReplays (Synthetic.repeated 7 "retry-1")) := by
  have hone : (Synthetic.replayGroup.newCommands (runReplays (Synthetic.repeated 7 "retry-1"))).length = 1 := by
    decide +kernel
  have hfresh : (runReplays (Synthetic.repeated 7 "retry-1")).log.all freshEntry = true := by decide +kernel
  have hsame : (Synthetic.repeated 7 "retry-1").all (startsWith "retry-1") = true := by decide +kernel
  exact ⟨hone, one_replay Synthetic.replayGroup (Synthetic.repeated 7 "retry-1") (fresh_of_check hfresh)
    (same_of_check hsame)⟩

end Middleware.Platform
