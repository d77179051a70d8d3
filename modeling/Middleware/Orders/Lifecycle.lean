/-
The lifecycle of an order over runs of the endpoints. None of them looks at the status that an order is in, so the lifecycle is kept
exactly by the runs whose requests respect it.
-/
import Middleware.Orders.Effects

namespace Middleware.Orders

open Lib OrderStore

/-! ## What is expected of a call -/

/-- The command that the record of an order names, if it is of that order. -/
def OrderStore.commandOf (s : OrderStore) (orderId : String) : Option CommandRecord :=
  (s.orders.get orderId).bind fun r => (s.commands.get r.commandId).filter fun c => decide (c.orderId = orderId)

/-- An order is final exactly if its command is. -/
def Agree (s : OrderStore) : Prop :=
  ∀ orderId r c, s.orders.get orderId = some r → s.commandOf orderId = some c → c.status.terminal = r.status.terminal

section Statements

variable (lib : Library) (settings : Settings)

/-- A call keeps the lifecycle. -/
structure Conforms (s : OrderStore) (e : Event) : Prop where
  kept : ∀ orderId r, s.orders.get orderId = some r →
    ∃ r', (step lib settings e s).orders.get orderId = some r' ∧ r'.intake = r.intake
  refused : ∀ order r reply, e.request.check lib settings = .ok (.receiveOrder order) → s.orders.get order.orderId = some r →
    (e.answer lib settings s).1 = .ok reply →
      order.idempotencyKey = r.envelope.idempotencyKey ∧ contentHash lib order = r.contentHash
  absorbing : ∀ orderId r r', s.orders.get orderId = some r → r.status.terminal = true →
    (step lib settings e s).orders.get orderId = some r' → r'.status = r.status
  agree : Agree (step lib settings e s)
  failed : ∀ result reply c r', e.request.check lib settings = .ok (.receiveResult result) → result.status = .failed →
    (e.answer lib settings s).1 = .ok reply → s.commands.get result.commandId = some c →
      (step lib settings e s).orders.get c.orderId = some r' → r'.status ∉ [OrderStatus.completed, .partiallyCompleted]
  attempts : ∀ commandId c, (step lib settings e s).commands.get commandId = some c → c.attempts ≤ maxAttempts
  raising : ∀ x, (e.answer lib settings s).1 = .error x → step lib settings e s = s

/-- The order may come into a status in which its command `commandId` will be too. -/
def OrderStore.Enters (s : OrderStore) (orderId : String) (commandId : Option String) (status : OrderStatus) : Prop :=
  ∀ r, s.orders.get orderId = some r → (r.status.terminal = true → status = r.status) ∧
    (commandId ≠ some r.commandId → ∀ c, s.commandOf orderId = some c → c.status.terminal = status.terminal)

/-- A request respects the lifecycle of the orders. -/
def Checked.Orderly (now : Time) (s : OrderStore) : Checked → Prop
  | .receiveOrder order => ∀ r, s.orders.get order.orderId = some r →
    ∃ orderId r', s.byIdempotency.get order.idempotencyKey = some orderId ∧ s.orders.get orderId = some r' ∧
      (orderId = order.orderId ∨ r'.contentHash ≠ contentHash lib order)
  | .approveOrder orderId approval => ∀ r, Approves s orderId approval r → r.status.terminal = false
  | .rejectOrder orderId => s.Enters orderId none .rejected
  | .dispatchOrder order => ∀ r, Dispatches lib settings now s order r → r.status.terminal = false ∧
    ∀ c, s.commands.get order.commandId = some c →
      c.orderId = order.orderId ∨ r.status = .dispatchedToN8n ∧ r.n8nDispatch = some ⟨order.workflowCode, .utc now⟩
  | .receiveResult result => ∀ r c, CallsBack s result.orderId result.commandId result.traceId r →
    s.commands.get result.commandId = some c → result.status ≠ .failed ∧
      (¬(c.status = .completed ∧ result.status = .completed) →
        s.Enters c.orderId (some result.commandId) (resultStatus result.status))
  | .receiveError error => ∀ r c, CallsBack s error.orderId error.commandId error.traceId r →
    s.commands.get error.commandId = some c → c.attempts < maxAttempts ∧
      s.Enters c.orderId (some error.commandId) (failureStatus c error.errorCode error.retryable).2
  | .receiveProgress progress => ∀ r c, s.orders.get progress.orderId = some r → r.commandId = progress.commandId →
    s.commands.get progress.commandId = some c → r.status.terminal = false
  | .receiveDeadLetter deadLetter => ∀ r, CallsBack s deadLetter.orderId deadLetter.commandId deadLetter.traceId r →
    s.Enters deadLetter.orderId none .deadLetter
  | .createCommand order => ∀ r, s.orders.get order.orderId = some r → s.commands.get order.commandId = none →
    r.commandId = order.commandId → r.status.terminal = false
  | .startCommand commandId => ∀ c r, s.commands.get commandId = some c → s.orders.get c.orderId = some r →
    r.status.terminal = false
  | .progressCommand _ _ | .getOrder _ | .reconcileOrder _ | .getCommand _ => True

def Orderly (s : OrderStore) (e : Event) : Prop :=
  ∀ c, e.request.check lib settings = .ok c → c.Orderly lib settings e.now s

end Statements

/-! ## What the records of a call say -/

/-- What is expected of the records before and after a call. -/
structure Core (s s' : OrderStore) : Prop where
  absorbing : ∀ orderId r r', s.orders.get orderId = some r → r.status.terminal = true → s'.orders.get orderId = some r' →
    r'.status = r.status
  agree : Agree s'
  attempts : ∀ commandId c, s'.commands.get commandId = some c → c.attempts ≤ maxAttempts

/-- The keys are those of the orders, and the commands are of orders. -/
structure Base (s : OrderStore) : Prop where
  keyed : ∀ key orderId, s.byIdempotency.get key = some orderId → ∃ r, s.orders.get orderId = some r ∧ r.envelope.idempotencyKey = key
  registered : ∀ orderId r, s.orders.get orderId = some r → s.byIdempotency.get r.envelope.idempotencyKey = some orderId
  ordered : s.Ordered

/-- What a run of orderly requests keeps. -/
structure Inv (s : OrderStore) : Prop extends Base s where
  agree : Agree s
  attempts : ∀ commandId c, s.commands.get commandId = some c → c.attempts ≤ maxAttempts

section Cores

variable {s s' : OrderStore} {order : Option (String × OrderStatus)} {command : Option (String × CommandRecord)} {orderId commandId : String}
  {status : OrderStatus} {c c' : CommandRecord} {r : OrderRecord}

theorem commandOf_eq (hr : s.orders.get orderId = some r) :
    s.commandOf orderId = (s.commands.get r.commandId).filter fun c => decide (c.orderId = orderId) := by
  unfold commandOf
  rw [hr]
  rfl

theorem commandOf_some (hr : s.orders.get orderId = some r) :
    s.commandOf orderId = some c ↔ s.commands.get r.commandId = some c ∧ c.orderId = orderId := by
  rw [commandOf_eq hr, Option.filter_eq_some_iff, decide_eq_true_iff]

theorem intake_commandId {r r' : OrderRecord} (h : r'.intake = r.intake) : r'.commandId = r.commandId :=
  (Prod.mk.inj (Prod.mk.inj h).2).1

theorem Moved.core_iff (h : Moved s s' order command) : Core s s' ↔
    (∀ orderId r, s.orders.get orderId = some r → r.status.terminal = true → moved order orderId r.status = r.status) ∧
    (∀ orderId r c, s.orders.get orderId = some r → written command r.commandId (s.commands.get r.commandId) = some c →
      c.orderId = orderId → c.status.terminal = (moved order orderId r.status).terminal) ∧
    ∀ commandId c, written command commandId (s.commands.get commandId) = some c → c.attempts ≤ maxAttempts := by
  constructor
  · intro hcore
    refine ⟨fun k r hr hterminal => ?_, fun k r c hr hc hk => ?_, fun k c hc => ?_⟩
    · obtain ⟨r', hr', -, hstatus⟩ := h.got hr
      rw [← hstatus]
      exact hcore.absorbing k r r' hr hterminal hr'
    · obtain ⟨r', hr', hintake, hstatus⟩ := h.got hr
      rw [← hstatus]
      refine hcore.agree k r' c hr' ((commandOf_some hr').2 ⟨?_, hk⟩)
      rw [intake_commandId hintake, h.commands]
      exact hc
    · rw [← h.commands] at hc
      exact hcore.attempts k c hc
  · rintro ⟨habsorbing, hagree, hattempts⟩
    refine ⟨fun k r r' hr hterminal hr' => ?_, fun k r' c hr' hc => ?_, fun k c hc => ?_⟩
    · obtain ⟨r'', hr'', -, hstatus⟩ := h.got hr
      rw [Option.some.inj (hr'.symm.trans hr''), hstatus]
      exact habsorbing k r hr hterminal
    · obtain ⟨r, hr, hintake, hstatus⟩ := h.came hr'
      obtain ⟨hc, hk⟩ := (commandOf_some hr').1 hc
      rw [intake_commandId hintake, h.commands] at hc
      rw [hstatus]
      exact hagree k r c hr hc hk
    · rw [h.commands] at hc
      exact hattempts k c hc

theorem Moved.core_order (h : Moved s s' (some (orderId, status)) none) (hinv : Inv s) : Core s s' ↔ s.Enters orderId none status := by
  rw [h.core_iff]
  constructor
  · rintro ⟨habsorbing, hagree, -⟩ r hr
    refine ⟨fun hterminal => ?_, fun _ c hc => ?_⟩
    · have hsame := habsorbing orderId r hr hterminal
      rwa [moved_self] at hsame
    · obtain ⟨hc, hk⟩ := (commandOf_some hr).1 hc
      have hsame := hagree orderId r c hr hc hk
      rwa [moved_self] at hsame
  · intro henters
    refine ⟨fun k r hr hterminal => ?_, fun k r c hr hc hk => ?_, hinv.attempts⟩
    · by_cases hkey : k = orderId
      · subst hkey
        rw [moved_self]
        exact (henters r hr).1 hterminal
      · exact moved_ne hkey _ _
    · have hown := (commandOf_some hr).2 ⟨hc, hk⟩
      by_cases hkey : k = orderId
      · subst hkey
        rw [moved_self]
        exact (henters r hr).2 nofun c hown
      · rw [moved_ne hkey]
        exact hinv.agree k r c hr hown

theorem Moved.core_both (h : Moved s s' (some (orderId, status)) (some (commandId, c'))) (hinv : Inv s) (horder : c'.orderId = orderId)
    (hterminal : c'.status.terminal = status.terminal) :
    Core s s' ↔ c'.attempts ≤ maxAttempts ∧ s.Enters orderId (some commandId) status := by
  rw [h.core_iff]
  constructor
  · rintro ⟨habsorbing, hagree, hattempts⟩
    refine ⟨hattempts commandId c' (if_pos rfl), fun r hr => ⟨fun hr' => ?_, fun hne c hc => ?_⟩⟩
    · have hsame := habsorbing orderId r hr hr'
      rwa [moved_self] at hsame
    · obtain ⟨hc, hk⟩ := (commandOf_some hr).1 hc
      have hother : r.commandId ≠ commandId := fun heq => hne (congrArg some heq.symm)
      have hsame := hagree orderId r c hr ((if_neg hother).trans hc) hk
      rwa [moved_self] at hsame
  · rintro ⟨hattempts, henters⟩
    refine ⟨fun k r hr hr' => ?_, fun k r c hr hc hk => ?_, fun k c hc => ?_⟩
    · by_cases hkey : k = orderId
      · subst hkey
        rw [moved_self]
        exact (henters r hr).1 hr'
      · exact moved_ne hkey _ _
    · by_cases hid : r.commandId = commandId
      · rw [hid, written_self] at hc
        rw [← Option.some.inj hc] at hk ⊢
        have hkey : k = orderId := hk.symm.trans horder
        rw [hkey, moved_self]
        exact hterminal
      · rw [written_ne hid] at hc
        have hown := (commandOf_some hr).2 ⟨hc, hk⟩
        by_cases hkey : k = orderId
        · subst hkey
          rw [moved_self]
          exact (henters r hr).2 (fun heq => hid (Option.some.inj heq).symm) c hown
        · rw [moved_ne hkey]
          exact hinv.agree k r c hr hown
    · by_cases hid : k = commandId
      · rw [hid, written_self] at hc
        rw [← Option.some.inj hc]
        exact hattempts
      · rw [written_ne hid] at hc
        exact hinv.attempts k c hc

theorem Moved.core_same (h : Moved s s' order (some (commandId, c'))) (hc : s.commands.get commandId = some c)
    (horder : c'.orderId = c.orderId) (hstatus : c'.status = c.status) (hattempts : c'.attempts = c.attempts)
    {t : OrderStore} (ht : Moved s t order none) : Core s s' ↔ Core s t := by
  rw [h.core_iff, ht.core_iff]
  have hwritten : ∀ k (P : CommandRecord → Prop), (P c' ↔ P c) → ((∀ x, written (some (commandId, c')) k (s.commands.get k) = some x → P x) ↔
      ∀ x, s.commands.get k = some x → P x) := by
    intro k P hP
    unfold written
    by_cases hk : k = commandId
    · subst hk
      rw [hc]
      simp only [if_true]
      exact ⟨fun hall x hx => by rw [← Option.some.inj hx]; exact hP.1 (hall c' rfl),
        fun hall x hx => by rw [← Option.some.inj hx]; exact hP.2 (hall c rfl)⟩
    · simp only [if_neg hk]
  refine and_congr Iff.rfl (and_congr ?_ ?_)
  · refine forall₂_congr fun k r => ?_
    rw [forall_comm, forall_comm (α := CommandRecord)]
    refine forall_congr' fun _ => ?_
    exact hwritten r.commandId (fun x => x.orderId = k → x.status.terminal = (moved order k r.status).terminal) (by rw [horder, hstatus])
  · exact forall_congr' fun k => hwritten k (fun x => x.attempts ≤ maxAttempts) (by rw [hattempts])

end Cores

/-! ## One call -/

section Calls

variable {lib : Library} {settings : Settings} {s s' : OrderStore} {e : Event} {c : Checked} {reply : Reply} {x : Exc}
  {order : Option (String × OrderStatus)} {command : Option (String × CommandRecord)}

theorem answer_eq (hcheck : e.request.check lib settings = .ok c) :
    e.answer lib settings s = invoke (c.run lib settings e.now) s := by
  unfold Event.answer
  rw [hcheck]

theorem orderly_iff (hcheck : e.request.check lib settings = .ok c) : Orderly lib settings s e ↔ c.Orderly lib settings e.now s :=
  ⟨fun h => h c hcheck, fun h c' hc' => by rwa [← Except.ok.inj (hcheck.symm.trans hc')]⟩

theorem conforms_same (hinv : Inv s) (hstep : step lib settings e s = s)
    (hrefused : ∀ order r reply, e.request.check lib settings = .ok (.receiveOrder order) → s.orders.get order.orderId = some r →
      (e.answer lib settings s).1 = .ok reply → order.idempotencyKey = r.envelope.idempotencyKey ∧ contentHash lib order = r.contentHash)
    (hfailed : ∀ result reply, e.request.check lib settings = .ok (.receiveResult result) →
      (e.answer lib settings s).1 ≠ .ok reply) : Conforms lib settings s e where
  kept orderId r hr := ⟨r, by rwa [hstep], rfl⟩
  refused := hrefused
  absorbing orderId r r' hr _ hr' := by
    rw [hstep] at hr'
    rw [Option.some.inj (hr.symm.trans hr')]
  agree := by
    rw [hstep]
    exact hinv.agree
  failed result reply c r' hcheck _ hreply := absurd hreply (hfailed result reply hcheck)
  attempts := by
    rw [hstep]
    exact hinv.attempts
  raising _ _ := hstep

theorem conforms_refused (hinv : Inv s) (hanswer : e.answer lib settings s = (.error x, s)) : Conforms lib settings s e := by
  refine conforms_same hinv (congrArg Prod.snd hanswer) ?_ ?_
  · intro order r reply _ _ hreply
    rw [hanswer] at hreply
    cases hreply
  · intro result reply _ hreply
    rw [hanswer] at hreply
    cases hreply

theorem conforms_moved (hcheck : e.request.check lib settings = .ok c) (hanswer : invoke (c.run lib settings e.now) s = (.ok reply, s'))
    (h : Moved s s' order command)
    (hrefused : ∀ order r, c = .receiveOrder order → s.orders.get order.orderId = some r →
      order.idempotencyKey = r.envelope.idempotencyKey ∧ contentHash lib order = r.contentHash)
    (hfailed : ∀ result, c = .receiveResult result → result.status ≠ .failed) : Conforms lib settings s e ↔ Core s s' := by
  have heq : e.answer lib settings s = (.ok reply, s') := (answer_eq hcheck).trans hanswer
  have hstep : step lib settings e s = s' := congrArg Prod.snd heq
  constructor
  · intro hconforms
    refine ⟨?_, ?_, ?_⟩
    · rw [← hstep]
      exact hconforms.absorbing
    · rw [← hstep]
      exact hconforms.agree
    · rw [← hstep]
      exact hconforms.attempts
  · intro hcore
    refine ⟨?_, ?_, ?_, ?_, ?_, ?_, ?_⟩
    · rw [hstep]
      intro orderId r hr
      obtain ⟨r', hr', hintake, -⟩ := h.got hr
      exact ⟨r', hr', hintake⟩
    · intro order r reply hcheck' hr _
      exact hrefused order r (Except.ok.inj (hcheck.symm.trans hcheck')) hr
    · rw [hstep]
      exact hcore.absorbing
    · rw [hstep]
      exact hcore.agree
    · intro result reply c' r' hcheck' hstatus
      exact absurd hstatus (hfailed result (Except.ok.inj (hcheck.symm.trans hcheck')))
    · rw [hstep]
      exact hcore.attempts
    · intro x hx
      rw [heq] at hx
      cases hx

theorem core_same (hinv : Inv s) (h : Moved s s' none none) : Core s s' :=
  h.core_iff.2 ⟨fun _ _ _ _ => rfl, fun orderId r c hr hc hk => hinv.agree orderId r c hr ((commandOf_some hr).2 ⟨hc, hk⟩), hinv.attempts⟩

/-- The call is as the lifecycle expects exactly if its request is orderly, and the keys and commands stay in order. -/
structure Settled (lib : Library) (settings : Settings) (s : OrderStore) (e : Event) : Prop where
  iff : Conforms lib settings s e ↔ Orderly lib settings s e
  base : Orderly lib settings s e → Base (step lib settings e s)

theorem Moved.base (h : Moved s s' order command) (hbase : Base s)
    (hcommand : ∀ key c, command = some (key, c) → ∃ r, s.orders.get c.orderId = some r) : Base s' := by
  have hkey : ∀ {r r' : OrderRecord}, r'.intake = r.intake → r'.envelope.idempotencyKey = r.envelope.idempotencyKey := by
    intro r r' hintake
    simp only [OrderRecord.intake, Prod.mk.injEq, OrderEnvelope.mk.injEq] at hintake
    tauto
  refine ⟨fun key orderId hget => ?_, fun orderId r' hr' => ?_, h.ordered hbase.ordered hcommand⟩
  · rw [h.keys] at hget
    obtain ⟨r, hr, hown⟩ := hbase.keyed key orderId hget
    obtain ⟨r', hr', hintake, -⟩ := h.got hr
    exact ⟨r', hr', (hkey hintake).trans hown⟩
  · obtain ⟨r, hr, hintake, -⟩ := h.came hr'
    rw [h.keys, hkey hintake]
    exact hbase.registered orderId r hr

theorem settled_refused (hinv : Inv s) (hcheck : e.request.check lib settings = .ok c)
    (hanswer : invoke (c.run lib settings e.now) s = (.error x, s)) (horderly : c.Orderly lib settings e.now s) :
    Settled lib settings s e := by
  have heq : e.answer lib settings s = (.error x, s) := (answer_eq hcheck).trans hanswer
  refine ⟨iff_of_true (conforms_refused hinv heq) ((orderly_iff hcheck).2 horderly), fun _ => ?_⟩
  rw [step, heq]
  exact hinv.toBase

theorem settled_moved (hinv : Inv s) (hcheck : e.request.check lib settings = .ok c)
    (hanswer : invoke (c.run lib settings e.now) s = (.ok reply, s')) (h : Moved s s' order command)
    (hcommand : ∀ key c, command = some (key, c) → ∃ r, s.orders.get c.orderId = some r)
    (hrefused : ∀ order r, c = .receiveOrder order → s.orders.get order.orderId = some r →
      order.idempotencyKey = r.envelope.idempotencyKey ∧ contentHash lib order = r.contentHash)
    (hfailed : ∀ result, c = .receiveResult result → result.status ≠ .failed)
    (hcore : Core s s' ↔ c.Orderly lib settings e.now s) : Settled lib settings s e := by
  refine ⟨?_, fun _ => ?_⟩
  · rw [conforms_moved hcheck hanswer h hrefused hfailed, orderly_iff hcheck]
    exact hcore
  · rw [step, answer_eq hcheck, hanswer]
    exact h.base hinv.toBase hcommand

end Calls

/-! ## Each endpoint -/

variable {order : OrderEnvelope}

section Endpoints

variable {lib : Library} {settings : Settings} {s : OrderStore} {e : Event} {orderId : String}

/-- An order comes into a status that is not final exactly if it is in one. -/
theorem enters_open (hinv : Inv s) {r : OrderRecord} (hr : s.orders.get orderId = some r) (commandId : Option String)
    {status : OrderStatus} (hstatus : status.terminal = false) : s.Enters orderId commandId status ↔ r.status.terminal = false := by
  constructor
  · intro henters
    by_contra hne
    have hterminal : r.status.terminal = true := by
      cases h : r.status.terminal
      · exact absurd h hne
      · rfl
    rw [(henters r hr).1 hterminal, hterminal] at hstatus
    cases hstatus
  · intro hopen r' hr'
    rw [Option.some.inj (hr'.symm.trans hr)]
    refine ⟨fun hterminal => ?_, fun _ c hc => ?_⟩
    · rw [hopen] at hterminal
      cases hterminal
    · rw [hinv.agree orderId r c hr hc, hopen, hstatus]

theorem receiveOrder_settled (hinv : Inv s) (hcheck : e.request.check lib settings = .ok (.receiveOrder order)) :
    Settled lib settings s e := by
  rcases receiveOrder_spec lib order s with ⟨hkey, reply, s', hanswer, htaken⟩ | ⟨orderId, r', hkey, hr', hhash, reply, s', hanswer, hmoved⟩ |
    ⟨orderId, hkey, hhash, x, hanswer⟩
  · have heq : e.answer lib settings s = (.ok reply, s') := (answer_eq hcheck).trans hanswer
    have hstep : step lib settings e s = s' := congrArg Prod.snd heq
    rcases hr : s.orders.get order.orderId with _ | r
    · -- the order is new
      have hother : ∀ k r, s.orders.get k = some r → s'.orders.get k = some r := by
        intro k r hk
        rw [htaken.orders, if_neg]
        · exact hk
        · rintro rfl
          rw [hr] at hk
          cases hk
      have hcame : ∀ k r, s'.orders.get k = some r → (k = order.orderId ∧ r = newRecord lib order) ∨ s.orders.get k = some r := by
        intro k r hk
        rw [htaken.orders] at hk
        by_cases hne : k = order.orderId
        · rw [if_pos hne] at hk
          exact .inl ⟨hne, (Option.some.inj hk).symm⟩
        · rw [if_neg hne] at hk
          exact .inr hk
      refine ⟨iff_of_true ⟨?_, ?_, ?_, ?_, ?_, ?_, ?_⟩ ((orderly_iff hcheck).2 fun r h => ?_), fun _ => ⟨?_, ?_, ?_⟩⟩
      · intro k r hk
        rw [hstep]
        exact ⟨r, hother k r hk, rfl⟩
      · intro order' r reply' hcheck' hk
        rw [← (Checked.receiveOrder.inj (Except.ok.inj (hcheck.symm.trans hcheck'))), hr] at hk
        cases hk
      · intro k r r' hk _ hk'
        rw [hstep, hother k r hk] at hk'
        rw [Option.some.inj hk']
      · rw [hstep]
        intro k r c hk hc
        obtain ⟨hget, hown⟩ := (commandOf_some hk).1 hc
        rw [htaken.commands] at hget
        rcases hcame k r hk with ⟨rfl, -⟩ | hk
        · -- its commands would be of an order that is not there
          obtain ⟨r₀, hr₀⟩ := hinv.ordered _ c hget
          rw [hown, hr] at hr₀
          cases hr₀
        · exact hinv.agree k r c hk ((commandOf_some hk).2 ⟨hget, hown⟩)
      · intro result reply' c r' hcheck'
        cases hcheck.symm.trans hcheck'
      · rw [hstep, htaken.commands]
        exact hinv.attempts
      · intro x hx
        rw [heq] at hx
        cases hx
      · rw [hr] at h
        cases h
      · rw [hstep]
        intro key k hget
        rw [htaken.keys] at hget
        by_cases hne : key = order.idempotencyKey
        · rw [if_pos hne] at hget
          refine ⟨newRecord lib order, ?_, hne.symm⟩
          rw [htaken.orders, if_pos (Option.some.inj hget).symm]
        · rw [if_neg hne] at hget
          obtain ⟨r, hk, hown⟩ := hinv.keyed key k hget
          exact ⟨r, hother k r hk, hown⟩
      · rw [hstep]
        intro k r hk
        rw [htaken.keys]
        rcases hcame k r hk with ⟨rfl, rfl⟩ | hk
        · exact if_pos rfl
        · have hregistered := hinv.registered k r hk
          rw [if_neg]
          · exact hregistered
          · intro hsame
            rw [hsame, hkey] at hregistered
            cases hregistered
      · rw [hstep]
        intro k c hc
        rw [htaken.commands] at hc
        obtain ⟨r, hk⟩ := hinv.ordered k c hc
        exact ⟨r, hother _ r hk⟩
    · -- the record that is there is replaced by one with another key
      refine ⟨iff_of_false (fun hconforms => ?_) (fun horderly => ?_), fun horderly => ?_⟩
      · obtain ⟨r', hr', hintake⟩ := hconforms.kept order.orderId r hr
        rw [hstep, htaken.orders, if_pos rfl] at hr'
        rw [← Option.some.inj hr'] at hintake
        have hregistered := hinv.registered order.orderId r hr
        have hsame : order.idempotencyKey = r.envelope.idempotencyKey := by
          simp only [OrderRecord.intake, newRecord, Prod.mk.injEq, OrderEnvelope.mk.injEq] at hintake
          tauto
        rw [← hsame, hkey] at hregistered
        cases hregistered
      all_goals
        obtain ⟨k, r', hget, -⟩ := (orderly_iff hcheck).1 horderly r hr
        rw [hkey] at hget
        cases hget
  · have hown : ∀ r, s.orders.get order.orderId = some r → (orderId = order.orderId ↔
        order.idempotencyKey = r.envelope.idempotencyKey ∧ contentHash lib order = r.contentHash) := by
      intro r hr
      constructor
      · rintro rfl
        obtain ⟨r₀, hr₀, hkeyed⟩ := hinv.keyed _ _ hkey
        rw [← Option.some.inj (hr'.symm.trans hr)]
        rw [← Option.some.inj (hr'.symm.trans hr₀)] at hkeyed
        exact ⟨hkeyed.symm, hhash.symm⟩
      · rintro ⟨hsame, -⟩
        have hregistered := hinv.registered _ r hr
        rw [← hsame, hkey] at hregistered
        exact Option.some.inj hregistered
    have horderly : Orderly lib settings s e ↔ ∀ r, s.orders.get order.orderId = some r → orderId = order.orderId := by
      rw [orderly_iff hcheck]
      refine forall₂_congr fun r hr => ⟨?_, fun h => ⟨orderId, r', hkey, hr', .inl h⟩⟩
      rintro ⟨k, r₀, hk, hr₀, heq | hne⟩
      · rw [Option.some.inj (hkey.symm.trans hk)]
        exact heq
      · rw [← Option.some.inj (hkey.symm.trans hk)] at hr₀
        rw [← Option.some.inj (hr'.symm.trans hr₀)] at hne
        exact absurd hhash hne
    have heq : e.answer lib settings s = (.ok reply, s') := (answer_eq hcheck).trans hanswer
    by_cases hsame : ∀ r, s.orders.get order.orderId = some r → orderId = order.orderId
    · refine settled_moved hinv hcheck hanswer hmoved (fun _ _ h => nomatch h) ?_ (fun _ h => nomatch h) (iff_of_true (Orders.core_same hinv hmoved) ?_)
      · rintro order' r horder hr
        cases horder
        exact (hown r hr).1 (hsame r hr)
      · exact (orderly_iff hcheck).1 (horderly.2 hsame)
    · refine ⟨iff_of_false (fun hconforms => hsame fun r hr => ?_) fun h => hsame (horderly.1 h), fun h => absurd (horderly.1 h) hsame⟩
      exact (hown r hr).2 (hconforms.refused order r reply hcheck hr (congrArg Prod.fst heq))
  · refine settled_refused hinv hcheck hanswer fun r _ => ?_
    obtain ⟨r', hr', -⟩ := hinv.keyed _ _ hkey
    exact ⟨orderId, r', hkey, hr', .inr (hhash r' hr')⟩

theorem approveOrder_settled (hinv : Inv s) {approval : ApprovalRequest}
    (hcheck : e.request.check lib settings = .ok (.approveOrder orderId approval)) : Settled lib settings s e := by
  rcases approveOrder_spec s orderId approval e.now with ⟨r, happroves, reply, s', hanswer, hmoved⟩ | ⟨hnot, x, hanswer⟩
  · refine settled_moved hinv hcheck hanswer hmoved (fun _ _ h => nomatch h) (fun _ _ h => nomatch h) (fun _ h => nomatch h) ?_
    rw [hmoved.core_order hinv, enters_open hinv happroves.got none rfl]
    refine ⟨fun hopen r' hr' => ?_, fun horderly => horderly r happroves⟩
    rw [Option.some.inj (hr'.got.symm.trans happroves.got)]
    exact hopen
  · exact settled_refused hinv hcheck hanswer fun r h => absurd h (hnot r)

theorem rejectOrder_settled (hinv : Inv s) (hcheck : e.request.check lib settings = .ok (.rejectOrder orderId)) :
    Settled lib settings s e := by
  rcases rejectOrder_spec s orderId with ⟨r, hr, reply, s', hanswer, hmoved⟩ | ⟨hr, x, hanswer⟩
  · exact settled_moved hinv hcheck hanswer hmoved (fun _ _ h => nomatch h) (fun _ _ h => nomatch h) (fun _ h => nomatch h) (hmoved.core_order hinv)
  · refine settled_refused hinv hcheck hanswer fun r h => ?_
    rw [hr] at h
    cases h

theorem dispatchOrder_settled (hinv : Inv s) (hcheck : e.request.check lib settings = .ok (.dispatchOrder order)) :
    Settled lib settings s e := by
  rcases dispatchOrder_spec lib settings order e.now s with ⟨r, c, hdispatches, hc, horder, x, hanswer⟩ |
    ⟨r, c, hdispatches, horder, hstatus, hold, reply, s', hanswer, hmoved⟩ | ⟨hnot, x, hanswer⟩
  · -- the command is another order's: the order is written, and then the call raises
    have heq := (answer_eq hcheck).trans hanswer
    have hstep : step lib settings e s = s.updateOrder order.orderId fun r => r.dispatch order.workflowCode e.now := congrArg Prod.snd heq
    have hsame : r.status = .dispatchedToN8n → r.n8nDispatch = some ⟨order.workflowCode, .utc e.now⟩ → step lib settings e s = s := by
      intro hstatus hdispatch
      have hrecord : r.dispatch order.workflowCode e.now = r := by
        unfold OrderRecord.dispatch
        rw [← hstatus, ← hdispatch]
      rw [hstep, updateOrder, hdispatches.got]
      dsimp only
      rw [hrecord, OrderedDict.set_get hdispatches.got]
    have hconforms : Orderly lib settings s e → step lib settings e s = s := by
      intro horderly
      obtain ⟨-, hcommand⟩ := (orderly_iff hcheck).1 horderly r hdispatches
      rcases hcommand c hc with h | ⟨hstatus, hdispatch⟩
      · exact absurd h horder
      · exact hsame hstatus hdispatch
    refine ⟨⟨fun h => (orderly_iff hcheck).2 ?_, fun h => ?_⟩, fun h => ?_⟩
    · have hraised := h.raising x (congrArg Prod.fst heq)
      have hget : (step lib settings e s).orders.get order.orderId = some (r.dispatch order.workflowCode e.now) := by
        rw [hstep, get_updateOrder, if_pos rfl, hdispatches.got]
        rfl
      rw [hraised, hdispatches.got] at hget
      have hrecord := Option.some.inj hget
      rintro r' ⟨hr', -, -⟩
      rw [Option.some.inj (hr'.symm.trans hdispatches.got)]
      have hstatus : r.status = .dispatchedToN8n := congrArg OrderRecord.status hrecord
      refine ⟨by rw [hstatus]; rfl, fun c' _ => .inr ⟨hstatus, congrArg OrderRecord.n8nDispatch hrecord⟩⟩
    · refine conforms_same hinv (hconforms h) ?_ ?_
      · intro order' r' reply hcheck'
        cases hcheck.symm.trans hcheck'
      · intro result reply hcheck'
        cases hcheck.symm.trans hcheck'
    · rw [hconforms h]
      exact hinv.toBase
  · refine settled_moved hinv hcheck hanswer hmoved ?_ (fun _ _ h => nomatch h) (fun _ h => nomatch h) ?_
    · intro key c' heq
      cases heq
      exact ⟨r, horder ▸ hdispatches.got⟩
    · have hattempts : c.attempts ≤ maxAttempts := by
        rcases hold with ⟨-, hzero⟩ | ⟨c', hc', -, hsame⟩
        · rw [hzero]
          exact Nat.zero_le _
        · rw [hsame]
          exact hinv.attempts _ c' hc'
      rw [hmoved.core_both hinv horder (by rw [hstatus]), enters_open hinv hdispatches.got _ rfl]
      refine ⟨fun ⟨_, hopen⟩ r' hr' => ?_, fun horderly => ⟨hattempts, (horderly r hdispatches).1⟩⟩
      rw [Option.some.inj (hr'.got.symm.trans hdispatches.got)]
      refine ⟨hopen, fun c' hc' => .inl ?_⟩
      rcases hold with ⟨hnone, -⟩ | ⟨c'', hc'', hown, -⟩
      · rw [hnone] at hc'
        cases hc'
      · rw [Option.some.inj (hc'.symm.trans hc'')]
        exact hown
  · exact settled_refused hinv hcheck hanswer fun r h => absurd h (hnot r)

theorem receiveResult_settled (hinv : Inv s) {result : ResultEnvelope} (hcheck : e.request.check lib settings = .ok (.receiveResult result)) :
    Settled lib settings s e := by
  rcases receiveResult_spec hinv.ordered result with ⟨r, c, hcalls, hc, ⟨hcompleted, hstatus, reply, s', hanswer, hmoved⟩ |
    ⟨hnot, reply, s', hanswer, hmoved⟩⟩ | ⟨hnot, x, hanswer⟩
  · refine settled_moved hinv hcheck hanswer hmoved (fun _ _ h => nomatch h) (fun _ _ h => nomatch h) ?_ (iff_of_true (Orders.core_same hinv hmoved) fun r' c' _ hc' => ?_)
    · rintro result' heq
      cases heq
      rw [hstatus]
      exact nofun
    · rw [Option.some.inj (hc'.symm.trans hc), hstatus]
      exact ⟨nofun, fun h => absurd ⟨hcompleted, rfl⟩ h⟩
  · by_cases hfailed : result.status = .failed
    · refine ⟨iff_of_false (fun h => ?_) fun h => ?_, fun h => ?_⟩
      · obtain ⟨r₀, hr₀⟩ := hinv.ordered _ c hc
        obtain ⟨r', hr', -, hstatus⟩ := hmoved.got hr₀
        have heq := (answer_eq hcheck).trans hanswer
        refine h.failed result reply c r' hcheck hfailed (congrArg Prod.fst heq) hc ?_ ?_
        · rw [step, heq]
          exact hr'
        · rw [hstatus, moved_self, hfailed]
          decide
      all_goals exact absurd hfailed ((orderly_iff hcheck).1 h r c hcalls hc).1
    · refine settled_moved hinv hcheck hanswer hmoved ?_ (fun _ _ h => nomatch h) ?_ ?_
      · intro key c' heq
        cases heq
        exact hinv.ordered _ c hc
      · rintro result' heq
        cases heq
        exact hfailed
      · rw [hmoved.core_both hinv rfl rfl]
        refine ⟨fun ⟨_, henters⟩ r' c' _ hc' => ?_, fun horderly => ⟨hinv.attempts _ c hc, (horderly r c hcalls hc).2 hnot⟩⟩
        rw [Option.some.inj (hc'.symm.trans hc)]
        exact ⟨hfailed, fun _ => henters⟩
  · refine settled_refused hinv hcheck hanswer fun r c hcalls hc => ?_
    rw [hnot r hcalls] at hc
    cases hc

theorem receiveError_settled (hinv : Inv s) {error : ErrorEnvelope} (hcheck : e.request.check lib settings = .ok (.receiveError error)) :
    Settled lib settings s e := by
  rcases receiveError_spec hinv.ordered error with ⟨r, c, hcalls, hc, reply, s', hanswer, hmoved⟩ | ⟨hnot, x, hanswer⟩
  · refine settled_moved hinv hcheck hanswer hmoved ?_ (fun _ _ h => nomatch h) (fun _ h => nomatch h) ?_
    · intro key c' heq
      cases heq
      exact hinv.ordered _ c hc
    · have hterminal : (failureStatus c error.errorCode error.retryable).1.terminal =
          (failureStatus c error.errorCode error.retryable).2.terminal := by
        unfold failureStatus
        split
        · rfl
        · split <;> rfl
      rw [hmoved.core_both hinv rfl hterminal]
      constructor
      · rintro ⟨hattempts, henters⟩ r' c' _ hc'
        rw [Option.some.inj (hc'.symm.trans hc)]
        exact ⟨hattempts, henters⟩
      · intro horderly
        exact horderly r c hcalls hc
  · refine settled_refused hinv hcheck hanswer fun r c hcalls hc => ?_
    rw [hnot r hcalls] at hc
    cases hc

variable {progress : ProgressEnvelope}

theorem receiveProgress_settled (hinv : Inv s)
    (hcheck : e.request.check lib settings = .ok (.receiveProgress progress)) : Settled lib settings s e := by
  rcases receiveProgress_spec s progress with ⟨r, c, hr, hid, hc, reply, s', hanswer, hmoved⟩ | ⟨hnot, x, hanswer⟩
  · refine settled_moved hinv hcheck hanswer hmoved ?_ (fun _ _ h => nomatch h) (fun _ h => nomatch h) ?_
    · intro key c' heq
      cases heq
      exact hinv.ordered _ c hc
    · have hrunning : Moved s (s.updateOrder progress.orderId fun r => { r with status := .running })
          (some (progress.orderId, .running)) none := (Moved.refl s).thenOrder (fun _ => rfl) fun _ => rfl
      rw [hmoved.core_same hc rfl rfl rfl hrunning, hrunning.core_order hinv, enters_open hinv hr none rfl]
      refine ⟨fun hopen r' c' hr' _ _ => ?_, fun horderly => horderly r c hr hid hc⟩
      rw [Option.some.inj (hr'.symm.trans hr)]
      exact hopen
  · exact settled_refused hinv hcheck hanswer fun r c hr hid hc => absurd hc (hnot r c hr hid)

theorem receiveDeadLetter_settled (hinv : Inv s) {deadLetter : DeadLetterEnvelope}
    (hcheck : e.request.check lib settings = .ok (.receiveDeadLetter deadLetter)) : Settled lib settings s e := by
  rcases receiveDeadLetter_spec s deadLetter with ⟨r, hcalls, reply, s', hanswer, hmoved⟩ | ⟨hnot, x, hanswer⟩
  · refine settled_moved hinv hcheck hanswer hmoved (fun _ _ h => nomatch h) (fun _ _ h => nomatch h) (fun _ h => nomatch h) ?_
    rw [hmoved.core_order hinv]
    exact ⟨fun henters _ _ => henters, fun horderly => horderly r hcalls⟩
  · exact settled_refused hinv hcheck hanswer fun r h => absurd h (hnot r)

theorem createCommand_settled (hinv : Inv s) (hcheck : e.request.check lib settings = .ok (.createCommand order)) :
    Settled lib settings s e := by
  rcases createCommand_spec s order with ⟨r, hr, hnone, reply, s', hanswer, hmoved⟩ | ⟨hnot, reply, hanswer⟩
  · refine settled_moved hinv hcheck hanswer hmoved ?_ (fun _ _ h => nomatch h) (fun _ h => nomatch h) ?_
    · intro key c' heq
      cases heq
      exact ⟨r, hr⟩
    · rw [hmoved.core_iff]
      constructor
      · rintro ⟨-, hagree, -⟩ r' hr' _ hid
        exact (hagree order.orderId r' (newCommand order.commandId order.orderId r.workflowCode) hr' (by rw [hid, written_self]) rfl).symm
      · intro horderly
        refine ⟨fun _ _ _ _ => rfl, fun k r' c hr' hc hk => ?_, fun k c hc => ?_⟩
        · by_cases hid : r'.commandId = order.commandId
          · rw [hid, written_self] at hc
            rw [← Option.some.inj hc] at hk ⊢
            subst hk
            exact (horderly r' hr' hnone hid).symm
          · rw [written_ne hid] at hc
            exact hinv.agree k r' c hr' ((commandOf_some hr').2 ⟨hc, hk⟩)
        · by_cases hid : k = order.commandId
          · rw [hid, written_self] at hc
            rw [← Option.some.inj hc]
            exact Nat.zero_le _
          · rw [written_ne hid] at hc
            exact hinv.attempts k c hc
  · have heq := (answer_eq hcheck).trans hanswer
    have hstep : step lib settings e s = s := congrArg Prod.snd heq
    refine ⟨iff_of_true (conforms_same hinv hstep ?_ ?_) ((orderly_iff hcheck).2 fun r hr hnone => absurd hnone (hnot r hr)), fun _ => ?_⟩
    · intro order' r' reply hcheck'
      cases hcheck.symm.trans hcheck'
    · intro result reply hcheck'
      cases hcheck.symm.trans hcheck'
    · rw [hstep]
      exact hinv.toBase

variable {commandId : String}

theorem startCommand_settled (hinv : Inv s) (hcheck : e.request.check lib settings = .ok (.startCommand commandId)) :
    Settled lib settings s e := by
  rcases startCommand_spec hinv.ordered commandId with ⟨c, hc, reply, s', hanswer, hmoved⟩ | ⟨hnone, x, hanswer⟩
  · obtain ⟨r, hr⟩ := hinv.ordered _ c hc
    refine settled_moved hinv hcheck hanswer hmoved ?_ (fun _ _ h => nomatch h) (fun _ h => nomatch h) ?_
    · intro key c' heq
      cases heq
      exact ⟨r, hr⟩
    · rw [hmoved.core_both hinv rfl rfl, enters_open hinv hr _ rfl]
      refine ⟨fun ⟨_, hopen⟩ c' r' hc' hr' => ?_, fun horderly => ⟨hinv.attempts _ c hc, horderly c r hc hr⟩⟩
      rw [Option.some.inj (hc'.symm.trans hc)] at hr'
      rw [Option.some.inj (hr'.symm.trans hr)]
      exact hopen
  · refine settled_refused hinv hcheck hanswer fun c r hc => ?_
    rw [hnone] at hc
    cases hc

theorem progressCommand_settled (hinv : Inv s)
    (hcheck : e.request.check lib settings = .ok (.progressCommand commandId progress)) : Settled lib settings s e := by
  rcases progressCommand_spec s commandId progress with ⟨c, hc, reply, s', hanswer, hmoved⟩ | ⟨x, hanswer⟩
  · refine settled_moved hinv hcheck hanswer hmoved ?_ (fun _ _ h => nomatch h) (fun _ h => nomatch h) (iff_of_true ?_ trivial)
    · intro key c' heq
      cases heq
      exact hinv.ordered _ c hc
    · rw [hmoved.core_same hc rfl rfl rfl (Moved.refl s)]
      exact Orders.core_same hinv (Moved.refl s)
  · exact settled_refused hinv hcheck hanswer trivial

theorem read_settled (hinv : Inv s) {c : Checked} {reply : Except Exc Reply} (hcheck : e.request.check lib settings = .ok c)
    (hanswer : invoke (c.run lib settings e.now) s = (reply, s)) (horderly : c.Orderly lib settings e.now s)
    (horder : ∀ order, c ≠ .receiveOrder order) (hresult : ∀ result, c ≠ .receiveResult result) : Settled lib settings s e := by
  have hstep : step lib settings e s = s := congrArg Prod.snd ((answer_eq hcheck).trans hanswer)
  refine ⟨iff_of_true (conforms_same hinv hstep ?_ ?_) ((orderly_iff hcheck).2 horderly), fun _ => ?_⟩
  · intro order r reply hcheck'
    exact absurd (Except.ok.inj (hcheck.symm.trans hcheck')) (horder order)
  · intro result reply hcheck'
    exact absurd (Except.ok.inj (hcheck.symm.trans hcheck')) (hresult result)
  · rw [hstep]
    exact hinv.toBase

theorem settled (hinv : Inv s) : Settled lib settings s e := by
  rcases hcheck : e.request.check lib settings with x | c
  · have heq : e.answer lib settings s = (.error x, s) := by
      unfold Event.answer
      rw [hcheck]
    refine ⟨iff_of_true (conforms_refused hinv heq) fun c hc => ?_, fun _ => ?_⟩
    · rw [hcheck] at hc
      cases hc
    · rw [step, heq]
      exact hinv.toBase
  · cases c with
    | receiveOrder order => exact receiveOrder_settled hinv hcheck
    | getOrder orderId => exact read_settled hinv hcheck (read_spec s orderId "").1.choose_spec trivial (fun _ h => nomatch h) (fun _ h => nomatch h)
    | approveOrder orderId approval => exact approveOrder_settled hinv hcheck
    | rejectOrder orderId => exact rejectOrder_settled hinv hcheck
    | dispatchOrder order => exact dispatchOrder_settled hinv hcheck
    | receiveResult result => exact receiveResult_settled hinv hcheck
    | receiveError error => exact receiveError_settled hinv hcheck
    | receiveProgress progress => exact receiveProgress_settled hinv hcheck
    | receiveDeadLetter deadLetter => exact receiveDeadLetter_settled hinv hcheck
    | reconcileOrder orderId => exact read_settled hinv hcheck (read_spec s orderId "").2.1.choose_spec trivial (fun _ h => nomatch h) (fun _ h => nomatch h)
    | createCommand order => exact createCommand_settled hinv hcheck
    | getCommand commandId => exact read_settled hinv hcheck (read_spec s "" commandId).2.2.choose_spec trivial (fun _ h => nomatch h) (fun _ h => nomatch h)
    | startCommand commandId => exact startCommand_settled hinv hcheck
    | progressCommand commandId progress => exact progressCommand_settled hinv hcheck

end Endpoints

/-! ## Runs -/

section Runs

variable {lib : Library} {settings : Settings}

theorem inv_empty : Inv {} where
  keyed _ _ h := nomatch h
  registered _ _ h := nomatch h
  ordered _ _ h := nomatch h
  agree _ _ _ h := nomatch h
  attempts _ _ h := nomatch h

theorem inv_step {s : OrderStore} {e : Event} (hinv : Inv s) (h : Orderly lib settings s e) : Inv (step lib settings e s) where
  toBase := (settled hinv).base h
  agree := ((settled hinv).iff.2 h).agree
  attempts := ((settled hinv).iff.2 h).attempts

/-- The lifecycle of the orders is kept throughout a run exactly if every request respects it. -/
theorem orders_lifecycle_iff (lib : Library) (settings : Settings) (events : List Event) :
    Always (step lib settings) (Conforms lib settings) {} events ↔ Always (step lib settings) (Orderly lib settings) {} events := by
  constructor
  · intro h
    exact h.of_invariant inv_empty (fun _ _ hinv hc => inv_step hinv ((settled hinv).iff.1 hc)) fun _ _ hinv hc => (settled hinv).iff.1 hc
  · intro h
    exact h.of_invariant inv_empty (fun _ _ hinv ho => inv_step hinv ho) fun _ _ hinv ho => (settled hinv).iff.2 ho

/-! ### A second create -/

def sampleLibrary : Library where
  isoformat d := if d.instant = 1767225600 then "2026-01-01T00:00:00Z" else "2026-01-01T01:00:00Z"
  hmacHexdigest _ _ := ""

def sampleOrder (key : String) : OrderEnvelope where
  commandId := "command-1"
  eventId := "event-1"
  orderId := "CODESTRA-INTEGRATION-TEST-1"
  orderType := "fulfillment"
  sourceSystem := "odoo"
  organizationId := "organization-1"
  customerReference := "customer-1"
  workflowCode := "CDST-ORDER-EXECUTE-V1"
  approval := { status := .pending, contentHash := "0000000000000000000000000000000000000000000000000000000000000000" }
  requestedActions := ["create_fulfillment_task"]
  idempotencyKey := key
  correlationId := "correlation-1"
  traceId := "trace-1"
  requestedAt := .utc 1767225600
  expiresAt := .utc 1767229200

/-- The order as the request of its intake. -/
def sampleIntake (key : String) : Event where
  request := .receiveOrder (sampleOrder key) (.unsigned ((sampleOrder key).normalizeApprovalFields.modelDump sampleLibrary))
  now := 1767225600

theorem sampleOrder_bounds (key : String) (hlower : 16 ≤ key.length) (hupper : key.length ≤ 255) :
    (sampleOrder key).fieldBounds = true := by
  unfold OrderEnvelope.fieldBounds bounded sampleOrder
  simp only [List.all_cons, List.all_nil, Bool.and_eq_true, decide_eq_true_eq, hlower, hupper]
  decide +kernel

theorem sampleIntake_check (key : String) (hkey : (sampleOrder key).fieldBounds = true) :
    (sampleIntake key).request.check sampleLibrary {} = .ok (.receiveOrder (sampleOrder key).normalizeApprovalFields) := by
  have hvalidated := validated_unsigned sampleLibrary {} rfl (OrderEnvelope.modelValidate_eq hkey rfl)
    (·.modelDump sampleLibrary)
  unfold sampleIntake Request.check
  dsimp only
  rw [hvalidated]
  rfl

theorem second_create {e e' : Event} {order' : OrderEnvelope} (hcheck : e.request.check lib settings = .ok (.receiveOrder order))
    (hcheck' : e'.request.check lib settings = .ok (.receiveOrder order')) (horder : order'.orderId = order.orderId)
    (hkeys : order'.idempotencyKey ≠ order.idempotencyKey) : ¬Always (step lib settings) (Conforms lib settings) {} [e, e'] := by
  rintro ⟨-, hsecond, -⟩
  rcases receiveOrder_spec lib order {} with ⟨-, reply, s, hanswer, htaken⟩ | ⟨_, _, hkey, -⟩ | ⟨_, hkey, -⟩
  · have hstep : step lib settings e {} = s := congrArg Prod.snd ((answer_eq hcheck).trans hanswer)
    rw [hstep] at hsecond
    have hr : s.orders.get order.orderId = some (newRecord lib order) := (htaken.orders _).trans (if_pos rfl)
    obtain ⟨r', hr', hintake⟩ := hsecond.kept _ _ hr
    have hnew : s.byIdempotency.get order'.idempotencyKey = none := (htaken.keys _).trans (if_neg hkeys)
    rcases receiveOrder_spec lib order' s with ⟨-, reply', s', hanswer', htaken'⟩ | ⟨_, _, hkey, -⟩ | ⟨_, hkey, -⟩
    · have hstep' : step lib settings e' s = s' := congrArg Prod.snd ((answer_eq hcheck').trans hanswer')
      rw [hstep', htaken'.orders, if_pos horder.symm] at hr'
      rw [← Option.some.inj hr'] at hintake
      exact hkeys (congrArg (fun i => i.2.2.2.2.2.2.idempotencyKey) hintake)
    all_goals cases hnew.symm.trans hkey
  all_goals cases hkey

theorem order_replaced : ¬∀ (lib : Library) (settings : Settings) (events : List Event),
    Always (step lib settings) (Conforms lib settings) {} events := by
  intro h
  have hcheck := sampleIntake_check "order-intake-0001" (sampleOrder_bounds _ (by decide) (by decide))
  have hcheck' := sampleIntake_check "order-intake-0002" (sampleOrder_bounds _ (by decide) (by decide))
  exact second_create hcheck hcheck' rfl (by decide) (h sampleLibrary {} _)

end Runs

end Middleware.Orders
