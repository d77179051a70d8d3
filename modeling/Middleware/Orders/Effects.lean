/-
What the endpoints do to the records. A call is refused and writes nothing, or it moves the status of an order and writes the record of
a command; one lemma for each endpoint says which, and under which guards.
-/
import Middleware.Orders.Store

namespace Middleware.Orders

open Lib OrderStore

/-! ## Records -/

def OrderStatus.terminal (status : OrderStatus) : Bool :=
  decide (status ∈ [OrderStatus.completed, .failedFinal, .deadLetter, .rejected])

/-- What came in with an order, without the outcome of its approval. -/
def OrderRecord.intake (r : OrderRecord) : String × String × String × String × String × String × OrderEnvelope :=
  (r.orderId, r.commandId, r.workflowCode, r.contentHash, r.traceId, r.correlationId,
    { r.envelope with
      approval := { r.envelope.approval with status := .pending, approvedBy := none, approvedAt := none } })

/-- The status of an order after one order's was moved. -/
def moved (order : Option (String × OrderStatus)) (orderId : String) (old : OrderStatus) : OrderStatus :=
  match order with
  | some (key, status) => if orderId = key then status else old
  | none => old

/-- The record of a command after one command's was written. -/
def written (command : Option (String × CommandRecord)) (commandId : String) (old : Option CommandRecord) : Option CommandRecord :=
  match command with
  | some (key, record) => if commandId = key then some record else old
  | none => old

theorem moved_self (orderId : String) (status old : OrderStatus) : moved (some (orderId, status)) orderId old = status := if_pos rfl

theorem moved_ne {orderId key : String} (h : orderId ≠ key) (status old : OrderStatus) : moved (some (key, status)) orderId old = old :=
  if_neg h

theorem written_self (commandId : String) (c : CommandRecord) (old : Option CommandRecord) :
    written (some (commandId, c)) commandId old = some c := if_pos rfl

theorem written_ne {commandId key : String} (h : commandId ≠ key) (c : CommandRecord) (old : Option CommandRecord) :
    written (some (key, c)) commandId old = old := if_neg h

/-- One order's status is moved, and one command's record is written. -/
structure Moved (s s' : OrderStore) (order : Option (String × OrderStatus)) (command : Option (String × CommandRecord)) : Prop where
  orders : ∀ orderId, (s'.orders.get orderId).map (fun r => (r.intake, r.status)) =
    (s.orders.get orderId).map fun r => (r.intake, moved order orderId r.status)
  commands : ∀ commandId, s'.commands.get commandId = written command commandId (s.commands.get commandId)
  keys : s'.byIdempotency = s.byIdempotency

section Updates

variable {s : OrderStore} {orderId commandId key name event : String} {f : OrderRecord → OrderRecord} {g : CommandRecord → CommandRecord}
  {details : Obj}

theorem get_updateOrder : (s.updateOrder orderId f).orders.get key =
    if key = orderId then (s.orders.get orderId).map f else s.orders.get key := by
  unfold updateOrder
  split
  · rename_i record h
    rw [OrderedDict.get_set, h]
    rfl
  · rename_i h
    split
    · rename_i hkey
      rw [hkey, h]
      rfl
    · rfl

theorem get_updateCommand : (s.updateCommand commandId g).commands.get key =
    if key = commandId then (s.commands.get commandId).map g else s.commands.get key := by
  unfold updateCommand
  split
  · rename_i record h
    rw [OrderedDict.get_set, h]
    rfl
  · rename_i h
    split
    · rename_i hkey
      rw [hkey, h]
      rfl
    · rfl

@[simp] theorem updateOrder_commands : (s.updateOrder orderId f).commands = s.commands := by
  unfold updateOrder
  split <;> rfl

@[simp] theorem updateOrder_byIdempotency : (s.updateOrder orderId f).byIdempotency = s.byIdempotency := by
  unfold updateOrder
  split <;> rfl

@[simp] theorem updateCommand_orders : (s.updateCommand commandId g).orders = s.orders := by
  unfold updateCommand
  split <;> rfl

@[simp] theorem updateCommand_byIdempotency : (s.updateCommand commandId g).byIdempotency = s.byIdempotency := by
  unfold updateCommand
  split <;> rfl

end Updates

namespace Moved

variable {s s' t : OrderStore} {order : Option (String × OrderStatus)} {command : Option (String × CommandRecord)}
  {orderId commandId : String} {status : OrderStatus}

theorem refl (s : OrderStore) : Moved s s none none := ⟨fun _ => rfl, fun _ => rfl, rfl⟩

theorem alike (h : Moved s s' order command) (horders : t.orders = s'.orders) (hcommands : t.commands = s'.commands)
    (hkeys : t.byIdempotency = s'.byIdempotency) : Moved s t order command :=
  ⟨fun k => by rw [horders]; exact h.orders k, fun k => by rw [hcommands]; exact h.commands k, hkeys.trans h.keys⟩

theorem thenOrder {f : OrderRecord → OrderRecord} (h : Moved s s' none command) (hintake : ∀ r, (f r).intake = r.intake)
    (hstatus : ∀ r, (f r).status = status) : Moved s (s'.updateOrder orderId f) (some (orderId, status)) command := by
  refine ⟨fun k => ?_, fun k => ?_, updateOrder_byIdempotency.trans h.keys⟩
  · have hsame : (s'.orders.get k).map (fun r => (r.intake, r.status)) = (s.orders.get k).map fun r => (r.intake, r.status) :=
      h.orders k
    rw [get_updateOrder]
    unfold moved
    by_cases hk : k = orderId
    · subst hk
      simp only [if_true]
      rcases hnew : s'.orders.get k with _ | r'
      · rw [hnew] at hsame
        rw [Option.map_eq_none_iff.1 hsame.symm]
        rfl
      · rw [hnew] at hsame
        obtain ⟨r, hold, heq⟩ := Option.map_eq_some_iff.1 hsame.symm
        rw [hold]
        show some ((f r').intake, (f r').status) = some (r.intake, status)
        rw [hintake, hstatus, (Prod.mk.inj heq).1]
    · simp only [if_neg hk]
      exact hsame
  · rw [updateOrder_commands]
    exact h.commands k

theorem note {f : OrderRecord → OrderRecord} (h : Moved s s' order command) (orderId : String) (hintake : ∀ r, (f r).intake = r.intake)
    (hstatus : ∀ r, (f r).status = r.status) : Moved s (s'.updateOrder orderId f) order command := by
  refine ⟨fun k => ?_, fun k => ?_, updateOrder_byIdempotency.trans h.keys⟩
  · rw [get_updateOrder, ← h.orders k]
    split
    · rename_i hk
      subst hk
      cases s'.orders.get k with
      | none => rfl
      | some r =>
        show some ((f r).intake, (f r).status) = some (r.intake, r.status)
        rw [hintake, hstatus]
    · rfl
  · rw [updateOrder_commands]
    exact h.commands k

theorem thenCommand {g : CommandRecord → CommandRecord} {c : CommandRecord} (h : Moved s s' order none)
    (hc : s.commands.get commandId = some c) : Moved s (s'.updateCommand commandId g) order (some (commandId, g c)) := by
  refine ⟨fun k => ?_, fun k => ?_, updateCommand_byIdempotency.trans h.keys⟩
  · rw [updateCommand_orders]
    exact h.orders k
  · have hsame : ∀ k, s'.commands.get k = s.commands.get k := h.commands
    rw [get_updateCommand, hsame, hsame, hc]
    rfl

theorem got {r : OrderRecord} (h : Moved s s' order command) (hr : s.orders.get orderId = some r) :
    ∃ r', s'.orders.get orderId = some r' ∧ r'.intake = r.intake ∧ r'.status = moved order orderId r.status := by
  have horders := h.orders orderId
  rw [hr] at horders
  obtain ⟨r', hr', heq⟩ := Option.map_eq_some_iff.1 horders
  obtain ⟨hintake, hstatus⟩ := Prod.mk.inj heq
  exact ⟨r', hr', hintake, hstatus⟩

theorem came {r' : OrderRecord} (h : Moved s s' order command) (hr' : s'.orders.get orderId = some r') :
    ∃ r, s.orders.get orderId = some r ∧ r'.intake = r.intake ∧ r'.status = moved order orderId r.status := by
  have horders := h.orders orderId
  rw [hr'] at horders
  obtain ⟨r, hr, heq⟩ := Option.map_eq_some_iff.1 horders.symm
  obtain ⟨hintake, hstatus⟩ := Prod.mk.inj heq
  exact ⟨r, hr, hintake.symm, hstatus.symm⟩

end Moved

/-! ## Parts of a call -/

section Parts

variable {s : OrderStore} {orderId commandId : String} {r : OrderRecord} {c : CommandRecord}

theorem invoke_get_some (h : s.orders.get orderId = some r) : invoke (OrderStore.get orderId) s = (.ok r, s) := by
  unfold OrderStore.get
  rw [invoke_bind, invoke_get]
  dsimp only
  rw [h]
  rfl

theorem invoke_get_none (h : s.orders.get orderId = none) :
    invoke (OrderStore.get orderId) s = (.error (.http 404 "order not found"), s) := by
  unfold OrderStore.get
  rw [invoke_bind, invoke_get]
  dsimp only
  rw [h]
  rfl

theorem invoke_getCommand_some (h : s.commands.get commandId = some c) : invoke (OrderStore.getCommand commandId) s = (.ok c, s) := by
  unfold OrderStore.getCommand
  rw [invoke_bind, invoke_get]
  dsimp only
  rw [h]
  rfl

theorem invoke_getCommand_none (h : s.commands.get commandId = none) :
    invoke (OrderStore.getCommand commandId) s = (.error (.http 404 "command not found"), s) := by
  unfold OrderStore.getCommand
  rw [invoke_bind, invoke_get]
  dsimp only
  rw [h]
  rfl

theorem get_bind_some {A : Type} {f : OrderRecord → OrderM A} (h : s.orders.get orderId = some r) :
    invoke (OrderStore.get orderId >>= f) s = invoke (f r) s := by
  rw [invoke_bind, invoke_get_some h]

theorem get_bind_none {A : Type} {f : OrderRecord → OrderM A} (h : s.orders.get orderId = none) :
    invoke (OrderStore.get orderId >>= f) s = (.error (.http 404 "order not found"), s) := by
  rw [invoke_bind, invoke_get_none h]

theorem getCommand_bind_some {A : Type} {f : CommandRecord → OrderM A} (h : s.commands.get commandId = some c) :
    invoke (OrderStore.getCommand commandId >>= f) s = invoke (f c) s := by
  rw [invoke_bind, invoke_getCommand_some h]

theorem getCommand_bind_none {A : Type} {f : CommandRecord → OrderM A} (h : s.commands.get commandId = none) :
    invoke (OrderStore.getCommand commandId >>= f) s = (.error (.http 404 "command not found"), s) := by
  rw [invoke_bind, invoke_getCommand_none h]

end Parts

/-! ## The endpoints -/

section Endpoints

variable {lib : Library} {settings : Settings} {s : OrderStore} {now : Time}

structure Taken (lib : Library) (s s' : OrderStore) (order : OrderEnvelope) : Prop where
  orders : ∀ orderId, s'.orders.get orderId = if orderId = order.orderId then some (newRecord lib order) else s.orders.get orderId
  commands : s'.commands = s.commands
  keys : ∀ key, s'.byIdempotency.get key = if key = order.idempotencyKey then some order.orderId else s.byIdempotency.get key

theorem receiveOrder_spec (lib : Library) (order : OrderEnvelope) (s : OrderStore) :
    (s.byIdempotency.get order.idempotencyKey = none ∧
      ∃ reply s', invoke (receiveOrder lib order) s = (.ok reply, s') ∧ Taken lib s s' order) ∨
    (∃ orderId r, s.byIdempotency.get order.idempotencyKey = some orderId ∧ s.orders.get orderId = some r ∧
      r.contentHash = contentHash lib order ∧
      ∃ reply s', invoke (receiveOrder lib order) s = (.ok reply, s') ∧ Moved s s' none none) ∨
    (∃ orderId, s.byIdempotency.get order.idempotencyKey = some orderId ∧
      (∀ r, s.orders.get orderId = some r → r.contentHash ≠ contentHash lib order) ∧
      ∃ x, invoke (receiveOrder lib order) s = (.error x, s)) := by
  unfold receiveOrder create
  simp only [invoke_bind, invoke_get]
  rcases hkey : s.byIdempotency.get order.idempotencyKey with _ | orderId
  · exact .inl ⟨rfl, _, _, rfl, fun k => OrderedDict.get_set, rfl, fun k => OrderedDict.get_set⟩
  · dsimp only
    rcases hr : s.orders.get orderId with _ | r
    · refine .inr (.inr ⟨orderId, rfl, ?_, _, rfl⟩)
      rintro r h
      rw [hr] at h
      cases h
    · dsimp only
      by_cases hhash : r.contentHash ≠ contentHash lib order
      · rw [if_pos hhash]
        refine .inr (.inr ⟨orderId, rfl, fun r' h => ?_, _, rfl⟩)
        rw [← Option.some.inj (hr.symm.trans h)]
        exact hhash
      · rw [if_neg hhash]
        exact .inr (.inl ⟨orderId, r, rfl, hr, not_not.1 hhash, _, _, rfl, (Moved.refl s).alike rfl rfl rfl⟩)

structure Approves (s : OrderStore) (orderId : String) (approval : ApprovalRequest) (r : OrderRecord) : Prop where
  got : s.orders.get orderId = some r
  matching : approval.contentHash = r.contentHash
  foreign : approval.approvedBy ≠ r.envelope.sourceSystem

theorem approveOrder_spec (s : OrderStore) (orderId : String) (approval : ApprovalRequest) (now : Time) :
    (∃ r, Approves s orderId approval r ∧ ∃ reply s', invoke (approveOrder orderId approval now) s = (.ok reply, s') ∧
      Moved s s' (some (orderId, .approved)) none) ∨
    (∀ r, ¬Approves s orderId approval r) ∧ ∃ x, invoke (approveOrder orderId approval now) s = (.error x, s) := by
  unfold approveOrder
  rcases hr : s.orders.get orderId with _ | r
  · refine .inr ⟨fun r h => ?_, _, get_bind_none hr⟩
    rw [h.got] at hr
    cases hr
  · rw [get_bind_some hr]
    by_cases hhash : approval.contentHash ≠ r.contentHash
    · rw [if_pos hhash]
      refine .inr ⟨fun r' h => hhash ?_, _, rfl⟩
      rw [h.matching, Option.some.inj (h.got.symm.trans hr)]
    · rw [if_neg hhash]
      by_cases hself : approval.approvedBy = r.envelope.sourceSystem
      · refine .inr ⟨fun r' h => h.foreign ?_, ?_⟩
        · rw [hself, Option.some.inj (h.got.symm.trans hr)]
        · rw [if_pos hself]
          exact ⟨_, rfl⟩
      · rw [if_neg hself]
        exact .inl ⟨r, ⟨hr, not_not.1 hhash, hself⟩, _, _, rfl, (Moved.refl s).thenOrder (fun _ => rfl) fun _ => rfl⟩

theorem rejectOrder_spec (s : OrderStore) (orderId : String) :
    (∃ r, s.orders.get orderId = some r ∧ ∃ reply s', invoke (rejectOrder orderId) s = (.ok reply, s') ∧
      Moved s s' (some (orderId, .rejected)) none) ∨
    s.orders.get orderId = none ∧ ∃ x, invoke (rejectOrder orderId) s = (.error x, s) := by
  unfold rejectOrder
  rcases hr : s.orders.get orderId with _ | r
  · exact .inr ⟨rfl, _, get_bind_none hr⟩
  · rw [get_bind_some hr]
    exact .inl ⟨r, rfl, _, _, rfl, (Moved.refl s).thenOrder (fun _ => rfl) fun _ => rfl⟩

def newCommand (commandId orderId workflowCode : String) : CommandRecord := { commandId, orderId, workflowCode }

theorem command_spec {orderId : String} {r : OrderRecord} (hr : s.orders.get orderId = some r) (commandId : String) :
    (∃ c, s.commands.get commandId = some c ∧ c.orderId = orderId ∧ invoke (command commandId orderId) s = (.ok c, s)) ∨
    (s.commands.get commandId = none ∧ ∃ s', invoke (command commandId orderId) s =
      (.ok (newCommand commandId orderId r.workflowCode), s') ∧ Moved s s' none (some (commandId, newCommand commandId orderId r.workflowCode))) ∨
    (∃ c, s.commands.get commandId = some c ∧ c.orderId ≠ orderId ∧ ∃ x, invoke (command commandId orderId) s = (.error x, s)) := by
  unfold command
  rw [get_bind_some hr, invoke_bind, invoke_get]
  dsimp only
  rcases hc : s.commands.get commandId with _ | c
  · refine .inr (.inl ⟨rfl, _, rfl, fun k => rfl, fun k => ?_, rfl⟩)
    exact OrderedDict.get_set
  · dsimp only
    by_cases horder : c.orderId ≠ orderId
    · rw [if_pos horder]
      exact .inr (.inr ⟨c, rfl, horder, _, rfl⟩)
    · rw [if_neg horder]
      exact .inl ⟨c, rfl, not_not.1 horder, rfl⟩

structure Dispatches (lib : Library) (settings : Settings) (now : Time) (s : OrderStore) (order : OrderEnvelope) (r : OrderRecord) :
    Prop where
  got : s.orders.get order.orderId = some r
  valid : validateForDispatch lib settings now order = .ok ()
  matching : r.contentHash = contentHash lib order

theorem dispatchOrder_spec (lib : Library) (settings : Settings) (order : OrderEnvelope) (now : Time) (s : OrderStore) :
    (∃ r c, Dispatches lib settings now s order r ∧ s.commands.get order.commandId = some c ∧ c.orderId ≠ order.orderId ∧
      ∃ x, invoke (dispatchOrder lib settings order now) s =
        (.error x, s.updateOrder order.orderId fun r => r.dispatch order.workflowCode now)) ∨
    (∃ r c, Dispatches lib settings now s order r ∧ c.orderId = order.orderId ∧ c.status = .dispatchedToN8n ∧
      (s.commands.get order.commandId = none ∧ c.attempts = 0 ∨
        ∃ c', s.commands.get order.commandId = some c' ∧ c'.orderId = order.orderId ∧ c.attempts = c'.attempts) ∧
      ∃ reply s', invoke (dispatchOrder lib settings order now) s = (.ok reply, s') ∧
        Moved s s' (some (order.orderId, .dispatchedToN8n)) (some (order.commandId, c))) ∨
    (∀ r, ¬Dispatches lib settings now s order r) ∧ ∃ x, invoke (dispatchOrder lib settings order now) s = (.error x, s) := by
  unfold dispatchOrder
  rcases hr : s.orders.get order.orderId with _ | r
  · refine .inr (.inr ⟨fun r h => ?_, _, get_bind_none hr⟩)
    rw [h.got] at hr
    cases hr
  rw [get_bind_some hr, invoke_bind, invoke_lift]
  rcases hvalid : validateForDispatch lib settings now order with x | u
  · refine .inr (.inr ⟨fun r h => ?_, _, rfl⟩)
    rw [h.valid] at hvalid
    cases hvalid
  dsimp only
  by_cases hhash : r.contentHash ≠ contentHash lib order
  · rw [if_pos hhash]
    refine .inr (.inr ⟨fun r' h => hhash ?_, _, rfl⟩)
    rw [← h.matching, Option.some.inj (h.got.symm.trans hr)]
  rw [if_neg hhash, invoke_bind, invoke_modify]
  dsimp only
  have hdispatches : Dispatches lib settings now s order r := ⟨hr, hvalid, not_not.1 hhash⟩
  have hwritten : Moved s (s.updateOrder order.orderId fun r => r.dispatch order.workflowCode now)
      (some (order.orderId, .dispatchedToN8n)) none := (Moved.refl s).thenOrder (fun _ => rfl) fun _ => rfl
  have hrecord : (s.updateOrder order.orderId fun r => r.dispatch order.workflowCode now).orders.get order.orderId =
      some (r.dispatch order.workflowCode now) := by
    rw [get_updateOrder, if_pos rfl, hr]
    rfl
  rw [invoke_bind]
  rcases command_spec hrecord order.commandId with ⟨c, hc, horder, hcommand⟩ | ⟨hc, s', hcommand, hnew⟩ | ⟨c, hc, horder, x, hcommand⟩
  · rw [hcommand]
    rw [updateOrder_commands] at hc
    exact .inr (.inl ⟨r, { c with status := .dispatchedToN8n }, hdispatches, horder, rfl, .inr ⟨c, hc, horder, rfl⟩, _, _, rfl,
      hwritten.thenCommand hc⟩)
  · rw [hcommand]
    rw [updateOrder_commands] at hc
    refine .inr (.inl ⟨r, { newCommand order.commandId order.orderId r.workflowCode with status := .dispatchedToN8n }, hdispatches,
      rfl, rfl, .inl ⟨hc, rfl⟩, _, _, rfl, fun k => ?_, fun k => ?_, ?_⟩)
    · rw [updateCommand_orders, ← hwritten.orders k, hnew.orders k]
      rfl
    · rw [get_updateCommand, hnew.commands, hnew.commands, updateOrder_commands]
      unfold written
      dsimp only
      rw [if_pos rfl]
      split <;> rfl
    · rw [updateCommand_byIdempotency, hnew.keys, updateOrder_byIdempotency]
  · rw [hcommand]
    rw [updateOrder_commands] at hc
    exact .inl ⟨r, c, hdispatches, hc, horder, x, rfl⟩

structure CallsBack (s : OrderStore) (orderId commandId traceId : String) (r : OrderRecord) : Prop where
  got : s.orders.get orderId = some r
  references : r.checkReferences commandId traceId = .ok ()

def OrderStore.Ordered (s : OrderStore) : Prop := ∀ commandId c, s.commands.get commandId = some c → ∃ r, s.orders.get c.orderId = some r

theorem Moved.ordered {s' : OrderStore} {order : Option (String × OrderStatus)} {command : Option (String × CommandRecord)}
    (h : Moved s s' order command) (hordered : s.Ordered)
    (hcommand : ∀ key c, command = some (key, c) → ∃ r, s.orders.get c.orderId = some r) : s'.Ordered := by
  intro commandId c hc
  rw [h.commands] at hc
  have hfound : ∃ r, s.orders.get c.orderId = some r := by
    rcases hcommand' : command with _ | ⟨key, c'⟩
    · rw [hcommand'] at hc
      exact hordered commandId c hc
    · rw [hcommand'] at hc
      by_cases hid : commandId = key
      · rw [hid, written_self] at hc
        rw [← Option.some.inj hc]
        exact hcommand key c' hcommand'
      · rw [written_ne hid] at hc
        exact hordered commandId c hc
  obtain ⟨r, hr⟩ := hfound
  obtain ⟨r', hr', -⟩ := h.got hr
  exact ⟨r', hr'⟩

theorem recordResult_spec (hordered : s.Ordered) (commandId : String) (status : ResultStatus) :
    (∃ c, s.commands.get commandId = some c ∧ c.status = .completed ∧ status = .completed ∧
      invoke (recordResult commandId status) s = (.ok (), s)) ∨
    (∃ c s', s.commands.get commandId = some c ∧ ¬(c.status = .completed ∧ status = .completed) ∧
      invoke (recordResult commandId status) s = (.ok (), s') ∧
        Moved s s' (some (c.orderId, resultStatus status)) (some (commandId, { c with status := resultStatus status }))) ∨
    (s.commands.get commandId = none ∧ ∃ x, invoke (recordResult commandId status) s = (.error x, s)) := by
  unfold recordResult
  rcases hc : s.commands.get commandId with _ | c
  · exact .inr (.inr ⟨rfl, _, getCommand_bind_none hc⟩)
  rw [getCommand_bind_some hc]
  by_cases hcompleted : c.status = .completed ∧ status = .completed
  · rw [if_pos hcompleted]
    exact .inl ⟨c, rfl, hcompleted.1, hcompleted.2, rfl⟩
  rw [if_neg hcompleted]
  obtain ⟨r, hr⟩ := hordered commandId c hc
  rw [get_bind_some hr]
  refine .inr (.inl ⟨c, _, rfl, hcompleted, rfl, ?_⟩)
  have hmoved : Moved s ((s.updateCommand commandId fun c => { c with status := resultStatus status }).updateOrder c.orderId
      fun r => { r with status := resultStatus status }) (some (c.orderId, resultStatus status))
      (some (commandId, { c with status := resultStatus status })) :=
    ((Moved.refl s).thenCommand hc).thenOrder (fun _ => rfl) fun _ => rfl
  exact hmoved.alike rfl rfl rfl

theorem recordFailure_spec (hordered : s.Ordered) (commandId errorCode : String) (retryable : Bool) :
    (∃ c s', s.commands.get commandId = some c ∧ invoke (recordFailure commandId errorCode retryable) s = (.ok (), s') ∧
      Moved s s' (some (c.orderId, (failureStatus c errorCode retryable).2))
        (some (commandId, { c with attempts := c.attempts + 1, status := (failureStatus c errorCode retryable).1 }))) ∨
    (s.commands.get commandId = none ∧ ∃ x, invoke (recordFailure commandId errorCode retryable) s = (.error x, s)) := by
  unfold recordFailure
  rcases hc : s.commands.get commandId with _ | c
  · exact .inr ⟨rfl, _, getCommand_bind_none hc⟩
  rw [getCommand_bind_some hc]
  obtain ⟨r, hr⟩ := hordered commandId c hc
  rw [get_bind_some hr]
  obtain ⟨t, ht⟩ : ∃ t, t = (s.updateCommand commandId fun c' =>
      { c' with attempts := c'.attempts + 1, status := (failureStatus c errorCode retryable).1 }).updateOrder c.orderId
        fun r => { r with status := (failureStatus c errorCode retryable).2 } := ⟨_, rfl⟩
  have hmoved : Moved s t (some (c.orderId, (failureStatus c errorCode retryable).2))
      (some (commandId, { c with attempts := c.attempts + 1, status := (failureStatus c errorCode retryable).1 })) := by
    rw [ht]
    exact ((Moved.refl s).thenCommand hc).thenOrder (fun _ => rfl) fun _ => rfl
  -- what is left counts and audits
  simp only [invoke_bind, invoke_modify, ← ht]
  refine .inl ⟨c, _, rfl, Prod.ext ?_ rfl, ?_⟩
  · split
    · split <;> rfl
    · split
      · split <;> rfl
      · split <;> rfl
  · refine hmoved.alike ?_ ?_ ?_
    all_goals
      split
      · split <;> rfl
      · split
        · split <;> rfl
        · split <;> rfl

theorem receiveResult_spec (hordered : s.Ordered) (result : ResultEnvelope) :
    (∃ r c, CallsBack s result.orderId result.commandId result.traceId r ∧ s.commands.get result.commandId = some c ∧
      (c.status = .completed ∧ result.status = .completed ∧
          (∃ reply s', invoke (receiveResult result) s = (.ok reply, s') ∧ Moved s s' none none) ∨
        ¬(c.status = .completed ∧ result.status = .completed) ∧
          ∃ reply s', invoke (receiveResult result) s = (.ok reply, s') ∧
            Moved s s' (some (c.orderId, resultStatus result.status))
              (some (result.commandId, { c with status := resultStatus result.status })))) ∨
    (∀ r, CallsBack s result.orderId result.commandId result.traceId r → s.commands.get result.commandId = none) ∧
      ∃ x, invoke (receiveResult result) s = (.error x, s) := by
  unfold receiveResult
  rcases hr : s.orders.get result.orderId with _ | r
  · refine .inr ⟨fun r h => ?_, _, get_bind_none hr⟩
    rw [h.got] at hr
    cases hr
  rw [get_bind_some hr, invoke_bind, invoke_lift]
  rcases hreferences : r.checkReferences result.commandId result.traceId with x | u
  · refine .inr ⟨fun r' h => ?_, _, rfl⟩
    have hsame := h.references
    rw [Option.some.inj (h.got.symm.trans hr), hreferences] at hsame
    cases hsame
  dsimp only
  rw [invoke_bind]
  rcases recordResult_spec hordered result.commandId result.status with
    ⟨c, hc, hcompleted, hstatus, hrecord⟩ | ⟨c, s', hc, hnot, hrecord, hmoved⟩ | ⟨hc, x, hrecord⟩
  · rw [hrecord]
    dsimp only
    rw [invoke_bind, invoke_modify]
    dsimp only
    have hnoted : Moved s (s.updateOrder result.orderId fun r => { r with result := some result }) none none :=
      (Moved.refl s).note _ (fun _ => rfl) fun _ => rfl
    obtain ⟨r', hr', -⟩ := hnoted.got hr
    rw [get_bind_some hr']
    exact .inl ⟨r, c, ⟨hr, hreferences⟩, hc, .inl ⟨hcompleted, hstatus, _, _, rfl, hnoted⟩⟩
  · rw [hrecord]
    dsimp only
    rw [invoke_bind, invoke_modify]
    dsimp only
    have hnoted := hmoved.note result.orderId (f := fun r => { r with result := some result }) (fun _ => rfl) fun _ => rfl
    obtain ⟨r', hr', -⟩ := hnoted.got hr
    rw [get_bind_some hr']
    exact .inl ⟨r, c, ⟨hr, hreferences⟩, hc, .inr ⟨hnot, _, _, rfl, hnoted⟩⟩
  · rw [hrecord]
    exact .inr ⟨fun _ _ => hc, _, rfl⟩

theorem receiveError_spec (hordered : s.Ordered) (error : ErrorEnvelope) :
    (∃ r c, CallsBack s error.orderId error.commandId error.traceId r ∧ s.commands.get error.commandId = some c ∧
      ∃ reply s', invoke (receiveError error) s = (.ok reply, s') ∧
        Moved s s' (some (c.orderId, (failureStatus c error.errorCode error.retryable).2)) (some (error.commandId,
          { c with attempts := c.attempts + 1, status := (failureStatus c error.errorCode error.retryable).1 }))) ∨
    (∀ r, CallsBack s error.orderId error.commandId error.traceId r → s.commands.get error.commandId = none) ∧
      ∃ x, invoke (receiveError error) s = (.error x, s) := by
  unfold receiveError
  rcases hr : s.orders.get error.orderId with _ | r
  · refine .inr ⟨fun r h => ?_, _, get_bind_none hr⟩
    rw [h.got] at hr
    cases hr
  rw [get_bind_some hr, invoke_bind, invoke_lift]
  rcases hreferences : r.checkReferences error.commandId error.traceId with x | u
  · refine .inr ⟨fun r' h => ?_, _, rfl⟩
    have hsame := h.references
    rw [Option.some.inj (h.got.symm.trans hr), hreferences] at hsame
    cases hsame
  dsimp only
  rw [invoke_bind]
  rcases recordFailure_spec hordered error.commandId error.errorCode error.retryable with ⟨c, s', hc, hrecord, hmoved⟩ | ⟨hc, x, hrecord⟩
  · rw [hrecord]
    dsimp only
    rw [invoke_bind, invoke_modify]
    dsimp only
    have hnoted := hmoved.note error.orderId (f := fun r => { r with errorCode := some error.errorCode }) (fun _ => rfl)
      fun _ => rfl
    obtain ⟨r', hr', -⟩ := hnoted.got hr
    rw [get_bind_some hr']
    exact .inl ⟨r, c, ⟨hr, hreferences⟩, hc, _, _, rfl, hnoted⟩
  · rw [hrecord]
    exact .inr ⟨fun _ _ => hc, _, rfl⟩

theorem receiveProgress_spec (s : OrderStore) (progress : ProgressEnvelope) :
    (∃ r c, s.orders.get progress.orderId = some r ∧ r.commandId = progress.commandId ∧ s.commands.get progress.commandId = some c ∧
      ∃ reply s', invoke (receiveProgress progress) s = (.ok reply, s') ∧
        Moved s s' (some (progress.orderId, .running)) (some (progress.commandId,
          { c with progress := c.progress ++ [(progress.progressPercent, progress.message)] }))) ∨
    (∀ r c, s.orders.get progress.orderId = some r → r.commandId = progress.commandId → s.commands.get progress.commandId ≠ some c) ∧
      ∃ x, invoke (receiveProgress progress) s = (.error x, s) := by
  unfold receiveProgress
  rcases hr : s.orders.get progress.orderId with _ | r
  · refine .inr ⟨?_, _, get_bind_none hr⟩
    rintro r c h
    cases h
  rw [get_bind_some hr, invoke_bind, invoke_get]
  dsimp only
  by_cases hunknown : (s.commands.get progress.commandId).isNone ∨ r.commandId ≠ progress.commandId
  · rw [if_pos hunknown]
    refine .inr ⟨?_, _, rfl⟩
    rintro r' c hr' hid hc
    rw [hc] at hunknown
    rcases hunknown with hnone | hne
    · cases hnone
    · rw [Option.some.inj hr'] at hne
      exact hne hid
  · rw [if_neg hunknown]
    obtain ⟨hsome, hid⟩ := not_or.1 hunknown
    rcases hc : s.commands.get progress.commandId with _ | c
    · rw [hc] at hsome
      exact absurd rfl hsome
    have hmoved : Moved s ((s.updateCommand progress.commandId fun c =>
          { c with progress := c.progress ++ [(progress.progressPercent, progress.message)] }).updateOrder progress.orderId
        fun r => { r with status := .running }) (some (progress.orderId, .running)) (some (progress.commandId,
          { c with progress := c.progress ++ [(progress.progressPercent, progress.message)] })) :=
      ((Moved.refl s).thenCommand hc).thenOrder (fun _ => rfl) fun _ => rfl
    exact .inl ⟨r, c, rfl, not_not.1 hid, rfl, _, _, rfl, hmoved.alike rfl rfl rfl⟩

theorem receiveDeadLetter_spec (s : OrderStore) (deadLetter : DeadLetterEnvelope) :
    (∃ r, CallsBack s deadLetter.orderId deadLetter.commandId deadLetter.traceId r ∧
      ∃ reply s', invoke (receiveDeadLetter deadLetter) s = (.ok reply, s') ∧
        Moved s s' (some (deadLetter.orderId, .deadLetter)) none) ∨
    (∀ r, ¬CallsBack s deadLetter.orderId deadLetter.commandId deadLetter.traceId r) ∧
      ∃ x, invoke (receiveDeadLetter deadLetter) s = (.error x, s) := by
  unfold receiveDeadLetter
  rcases hr : s.orders.get deadLetter.orderId with _ | r
  · refine .inr ⟨fun r h => ?_, _, get_bind_none hr⟩
    rw [h.got] at hr
    cases hr
  rw [get_bind_some hr, invoke_bind, invoke_lift]
  rcases hreferences : r.checkReferences deadLetter.commandId deadLetter.traceId with x | u
  · refine .inr ⟨fun r' h => ?_, _, rfl⟩
    have hsame := h.references
    rw [Option.some.inj (h.got.symm.trans hr), hreferences] at hsame
    cases hsame
  have hmoved : Moved s (s.updateOrder deadLetter.orderId fun r => { r with status := .deadLetter, deadLetter := some deadLetter })
      (some (deadLetter.orderId, .deadLetter)) none := (Moved.refl s).thenOrder (fun _ => rfl) fun _ => rfl
  exact .inl ⟨r, ⟨hr, hreferences⟩, _, _, rfl, hmoved.alike rfl rfl rfl⟩

theorem createCommand_spec (s : OrderStore) (order : OrderEnvelope) :
    (∃ r, s.orders.get order.orderId = some r ∧ s.commands.get order.commandId = none ∧
      ∃ reply s', invoke (createCommand order) s = (.ok reply, s') ∧
        Moved s s' none (some (order.commandId, newCommand order.commandId order.orderId r.workflowCode))) ∨
    (∀ r, s.orders.get order.orderId = some r → s.commands.get order.commandId ≠ none) ∧
      ∃ reply, invoke (createCommand order) s = (reply, s) := by
  unfold createCommand
  rw [invoke_bind]
  rcases hr : s.orders.get order.orderId with _ | r
  · refine .inr ⟨?_, .error (.http 404 "order not found"), ?_⟩
    · rintro r h
      cases h
    · unfold command
      rw [get_bind_none hr]
  rcases command_spec hr order.commandId with ⟨c, hc, -, hcommand⟩ | ⟨hc, s', hcommand, hnew⟩ | ⟨c, hc, -, x, hcommand⟩
  · rw [hcommand]
    refine .inr ⟨fun _ _ => ?_, _, rfl⟩
    rw [hc]
    exact Option.some_ne_none c
  · rw [hcommand]
    exact .inl ⟨r, rfl, hc, _, _, rfl, hnew⟩
  · rw [hcommand]
    refine .inr ⟨fun _ _ => ?_, _, rfl⟩
    rw [hc]
    exact Option.some_ne_none c

theorem startCommand_spec (hordered : s.Ordered) (commandId : String) :
    (∃ c, s.commands.get commandId = some c ∧ ∃ reply s', invoke (startCommand commandId) s = (.ok reply, s') ∧
      Moved s s' (some (c.orderId, .running)) (some (commandId, { c with status := .running }))) ∨
    s.commands.get commandId = none ∧ ∃ x, invoke (startCommand commandId) s = (.error x, s) := by
  unfold startCommand
  rcases hc : s.commands.get commandId with _ | c
  · exact .inr ⟨rfl, _, getCommand_bind_none hc⟩
  rw [getCommand_bind_some hc, invoke_bind, invoke_modify]
  dsimp only
  have hwritten : Moved s (s.updateCommand commandId fun c => { c with status := .running }) none
      (some (commandId, { c with status := .running })) := (Moved.refl s).thenCommand hc
  obtain ⟨r, hr⟩ := hordered commandId c hc
  obtain ⟨r', hr', -⟩ := hwritten.got hr
  rw [get_bind_some hr']
  exact .inl ⟨c, rfl, _, _, rfl, hwritten.thenOrder (fun _ => rfl) fun _ => rfl⟩

theorem progressCommand_spec (s : OrderStore) (commandId : String) (progress : ProgressEnvelope) :
    (∃ c, s.commands.get commandId = some c ∧ ∃ reply s', invoke (progressCommand commandId progress) s = (.ok reply, s') ∧
      Moved s s' none (some (commandId, { c with progress := c.progress ++ [(progress.progressPercent, progress.message)] }))) ∨
    ∃ x, invoke (progressCommand commandId progress) s = (.error x, s) := by
  unfold progressCommand
  rcases hc : s.commands.get commandId with _ | c
  · exact .inr ⟨_, getCommand_bind_none hc⟩
  rw [getCommand_bind_some hc]
  by_cases hne : progress.commandId ≠ commandId
  · rw [if_pos hne]
    exact .inr ⟨_, rfl⟩
  · rw [if_neg hne]
    exact .inl ⟨c, rfl, _, _, rfl, (Moved.refl s).thenCommand hc⟩

theorem read_spec (s : OrderStore) (orderId commandId : String) :
    (∃ reply, invoke (getOrder orderId) s = (reply, s)) ∧ (∃ reply, invoke (reconcileOrder orderId) s = (reply, s)) ∧
      ∃ reply, invoke (readCommand commandId) s = (reply, s) := by
  refine ⟨?_, ?_, ?_⟩
  · rcases hr : s.orders.get orderId with _ | r
    · exact ⟨_, get_bind_none hr⟩
    · exact ⟨_, get_bind_some hr⟩
  · rcases hr : s.orders.get orderId with _ | r
    · exact ⟨_, get_bind_none hr⟩
    · exact ⟨_, get_bind_some hr⟩
  · rcases hc : s.commands.get commandId with _ | c
    · exact ⟨_, getCommand_bind_none hc⟩
    · exact ⟨_, getCommand_bind_some hc⟩

end Endpoints

end Middleware.Orders
