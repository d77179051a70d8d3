/-
The approval of an order before its dispatch. What a dispatch consults is the approval in its own body; the record that `approve_order`
writes is never asked. So an order is dispatched as it was approved exactly where the caller does so while its approval stands.
-/
import Middleware.Orders.Lifecycle

namespace Middleware.Orders

open Lib OrderStore

/-! ## What a step does -/

section Steps

variable {lib : Library} {settings : Settings} {s s' : OrderStore} {e : Event}

structure Cause (lib : Library) (settings : Settings) (s : OrderStore) (e : Event) (orderId : String) (status : OrderStatus) : Prop where
  later : status ≠ .approvalRequired ∧ status ≠ .validated
  approved : status = .approved → ∃ approval r, e.request.check lib settings = .ok (.approveOrder orderId approval) ∧
    Approves s orderId approval r
  dispatched : status = .dispatchedToN8n → ∃ order r, e.request.check lib settings = .ok (.dispatchOrder order) ∧
    order.orderId = orderId ∧ Dispatches lib settings e.now s order r

/-- What a request does to the records: it takes an order in, or it moves one. -/
inductive Effect (lib : Library) (settings : Settings) (s : OrderStore) (e : Event) (s' : OrderStore) : Prop where
  | taken (order : OrderEnvelope) (hcheck : e.request.check lib settings = .ok (.receiveOrder order)) (h : Taken lib s s' order)
  | moved (order : Option (String × OrderStatus)) (command : Option (String × CommandRecord)) (h : Moved s s' order command)
    (hcause : ∀ orderId status, order = some (orderId, status) → Cause lib settings s e orderId status)
    (hcommand : ∀ commandId c, command = some (commandId, c) → ∃ r, s.orders.get c.orderId = some r)

/-- A status that neither is given at intake nor tells of an approval or a dispatch. -/
theorem Cause.plain {orderId : String} {status : OrderStatus}
    (h : status ∉ [OrderStatus.approvalRequired, .validated, .approved, .dispatchedToN8n]) : Cause lib settings s e orderId status := by
  simp only [List.mem_cons, List.not_mem_nil, or_false, not_or] at h
  obtain ⟨h₁, h₂, h₃, h₄⟩ := h
  exact ⟨⟨h₁, h₂⟩, fun h => absurd h h₃, fun h => absurd h h₄⟩

theorem Effect.same (lib : Library) (settings : Settings) (s : OrderStore) (e : Event) : Effect lib settings s e s :=
  .moved none none (Moved.refl s) nofun nofun

theorem Effect.order {orderId : String} {status : OrderStatus} (h : Moved s s' (some (orderId, status)) none)
    (hcause : Cause lib settings s e orderId status) : Effect lib settings s e s' := by
  refine .moved _ _ h ?_ nofun
  rintro _ _ ⟨⟩
  exact hcause

theorem Effect.command {commandId : String} {c : CommandRecord} (h : Moved s s' none (some (commandId, c)))
    (hcommand : ∃ r, s.orders.get c.orderId = some r) : Effect lib settings s e s' := by
  refine .moved _ _ h nofun ?_
  rintro _ _ ⟨⟩
  exact hcommand

theorem Effect.both {orderId commandId : String} {status : OrderStatus} {c : CommandRecord}
    (h : Moved s s' (some (orderId, status)) (some (commandId, c))) (hcause : Cause lib settings s e orderId status)
    (hcommand : ∃ r, s.orders.get c.orderId = some r) : Effect lib settings s e s' := by
  refine .moved _ _ h ?_ ?_
  · rintro _ _ ⟨⟩
    exact hcause
  · rintro _ _ ⟨⟩
    exact hcommand

theorem checked_effect (hordered : s.Ordered) {c : Checked} (hcheck : e.request.check lib settings = .ok c) :
    Effect lib settings s e (invoke (c.run lib settings e.now) s).2 := by
  cases c with
  | receiveOrder order =>
    unfold Checked.run
    rcases receiveOrder_spec lib order s with ⟨-, reply, s', hanswer, htaken⟩ | ⟨_, _, -, -, -, reply, s', hanswer, hmoved⟩ |
      ⟨_, -, -, x, hanswer⟩
    all_goals rw [hanswer]
    · exact .taken order hcheck htaken
    · exact .moved none none hmoved nofun nofun
    · exact .same lib settings s e
  | approveOrder orderId approval =>
    unfold Checked.run
    rcases approveOrder_spec s orderId approval e.now with ⟨r, happroves, reply, s', hanswer, hmoved⟩ | ⟨-, x, hanswer⟩
    all_goals rw [hanswer]
    · exact .order hmoved ⟨by decide, fun _ => ⟨approval, r, hcheck, happroves⟩, nofun⟩
    · exact .same lib settings s e
  | rejectOrder orderId =>
    unfold Checked.run
    rcases rejectOrder_spec s orderId with ⟨r, -, reply, s', hanswer, hmoved⟩ | ⟨-, x, hanswer⟩
    all_goals rw [hanswer]
    · exact .order hmoved (.plain (by decide))
    · exact .same lib settings s e
  | dispatchOrder order =>
    unfold Checked.run
    have hcause : ∀ r, Dispatches lib settings e.now s order r → Cause lib settings s e order.orderId .dispatchedToN8n :=
      fun r h => ⟨by decide, nofun, fun _ => ⟨order, r, hcheck, rfl, h⟩⟩
    rcases dispatchOrder_spec lib settings order e.now s with ⟨r, c, hdispatches, -, -, x, hanswer⟩ |
      ⟨r, c, hdispatches, horder, -, -, reply, s', hanswer, hmoved⟩ | ⟨-, x, hanswer⟩
    all_goals rw [hanswer]
    · exact .order ((Moved.refl s).thenOrder (fun _ => rfl) fun _ => rfl) (hcause r hdispatches)
    · exact .both hmoved (hcause r hdispatches) ⟨r, horder ▸ hdispatches.got⟩
    · exact .same lib settings s e
  | receiveResult result =>
    unfold Checked.run
    rcases receiveResult_spec hordered result with ⟨r, c, -, hc, ⟨-, -, reply, s', hanswer, hmoved⟩ | ⟨-, reply, s', hanswer, hmoved⟩⟩ |
      ⟨-, x, hanswer⟩
    all_goals rw [hanswer]
    · exact .moved none none hmoved nofun nofun
    · refine .both hmoved (.plain ?_) (hordered _ c hc)
      unfold resultStatus
      split <;> decide
    · exact .same lib settings s e
  | receiveError error =>
    unfold Checked.run
    rcases receiveError_spec hordered error with ⟨r, c, -, hc, reply, s', hanswer, hmoved⟩ | ⟨-, x, hanswer⟩
    all_goals rw [hanswer]
    · refine .both hmoved (.plain ?_) (hordered _ c hc)
      unfold failureStatus
      split
      · decide
      · split <;> decide
    · exact .same lib settings s e
  | receiveProgress progress =>
    unfold Checked.run
    rcases receiveProgress_spec s progress with ⟨r, c, -, -, hc, reply, s', hanswer, hmoved⟩ | ⟨-, x, hanswer⟩
    all_goals rw [hanswer]
    · exact .both hmoved (.plain (by decide)) (hordered _ c hc)
    · exact .same lib settings s e
  | receiveDeadLetter deadLetter =>
    unfold Checked.run
    rcases receiveDeadLetter_spec s deadLetter with ⟨r, -, reply, s', hanswer, hmoved⟩ | ⟨-, x, hanswer⟩
    all_goals rw [hanswer]
    · exact .order hmoved (.plain (by decide))
    · exact .same lib settings s e
  | createCommand order =>
    unfold Checked.run
    rcases createCommand_spec s order with ⟨r, hr, -, reply, s', hanswer, hmoved⟩ | ⟨-, reply, hanswer⟩
    all_goals rw [hanswer]
    · exact .command hmoved ⟨r, hr⟩
    · exact .same lib settings s e
  | startCommand commandId =>
    unfold Checked.run
    rcases startCommand_spec hordered commandId with ⟨c, hc, reply, s', hanswer, hmoved⟩ | ⟨-, x, hanswer⟩
    all_goals rw [hanswer]
    · exact .both hmoved (.plain (by decide)) (hordered _ c hc)
    · exact .same lib settings s e
  | progressCommand commandId progress =>
    unfold Checked.run
    rcases progressCommand_spec s commandId progress with ⟨c, hc, reply, s', hanswer, hmoved⟩ | ⟨x, hanswer⟩
    all_goals rw [hanswer]
    · exact .command hmoved (hordered _ c hc)
    · exact .same lib settings s e
  | getOrder orderId =>
    unfold Checked.run
    obtain ⟨⟨reply, hanswer⟩, -, -⟩ := read_spec s orderId ""
    rw [hanswer]
    exact .same lib settings s e
  | reconcileOrder orderId =>
    unfold Checked.run
    obtain ⟨-, ⟨reply, hanswer⟩, -⟩ := read_spec s orderId ""
    rw [hanswer]
    exact .same lib settings s e
  | getCommand commandId =>
    unfold Checked.run
    obtain ⟨-, -, ⟨reply, hanswer⟩⟩ := read_spec s "" commandId
    rw [hanswer]
    exact .same lib settings s e

theorem effect (hordered : s.Ordered) : Effect lib settings s e (step lib settings e s) := by
  unfold step Event.answer
  rcases hcheck : e.request.check lib settings with x | c
  · exact .same lib settings s e
  · exact checked_effect hordered hcheck

theorem Effect.ordered (h : Effect lib settings s e s') (hordered : s.Ordered) : s'.Ordered := by
  cases h with
  | taken order hcheck h =>
    intro commandId c hc
    rw [h.commands] at hc
    obtain ⟨r, hr⟩ := hordered commandId c hc
    rw [h.orders]
    split
    · exact ⟨_, rfl⟩
    · exact ⟨r, hr⟩
  | moved order command h hcause hcommand => exact h.ordered hordered hcommand

theorem Effect.came {orderId : String} {r' : OrderRecord} (h : Effect lib settings s e s') (hr' : s'.orders.get orderId = some r')
    (hlater : r'.status ≠ .approvalRequired ∧ r'.status ≠ .validated) :
    ∃ r, s.orders.get orderId = some r ∧ r'.intake = r.intake ∧
      (r'.status = r.status ∨ Cause lib settings s e orderId r'.status) := by
  cases h with
  | taken order hcheck h =>
    rw [h.orders] at hr'
    by_cases hkey : orderId = order.orderId
    · rw [if_pos hkey] at hr'
      rw [← Option.some.inj hr'] at hlater
      unfold newRecord at hlater
      split at hlater
      · exact absurd rfl hlater.1
      · exact absurd rfl hlater.2
    · rw [if_neg hkey] at hr'
      exact ⟨r', hr', rfl, .inl rfl⟩
  | moved order command h hcause hcommand =>
    obtain ⟨r, hr, hintake, hstatus⟩ := h.came hr'
    refine ⟨r, hr, hintake, ?_⟩
    rcases order with _ | ⟨key, status⟩
    · exact .inl hstatus
    · by_cases hkey : orderId = key
      · subst hkey
        rw [moved_self] at hstatus
        rw [hstatus]
        exact .inr (hcause orderId status rfl)
      · rw [moved_ne hkey] at hstatus
        exact .inl hstatus

end Steps

/-! ## What is expected of a dispatch -/

section Statements

variable (lib : Library) (settings : Settings)

def reached (events : List Event) : OrderStore := runFrom (step lib settings) {} events

def OrderEnvelope.contentText (o : OrderEnvelope) : String := dumps true (.obj (o.content lib))

/-- The order was approved, as this record and by its content hash, and it has come to no final status since. -/
def ApprovedBefore (before : List Event) (orderId : String) (r : OrderRecord) : Prop :=
  ∃ earlier : List Event, ∃ a, ∃ later : List Event, ∃ approval r₀, before = earlier ++ a :: later ∧
    a.request.check lib settings = .ok (.approveOrder orderId approval) ∧
    Approves (reached lib settings earlier) orderId approval r₀ ∧ r₀.intake = r.intake ∧
    ∀ mid, mid <+: later → ∃ r', (reached lib settings (earlier ++ a :: mid)).orders.get orderId = some r' ∧ r'.intake = r.intake ∧
      r'.status.terminal = false

/-- A request that brings an order to `DISPATCHED_TO_N8N` is a dispatch, and it dispatches what was approved. -/
structure OnlyApproved (before : List Event) (e : Event) : Prop where
  entered : ∀ orderId r', (reached lib settings (before ++ [e])).orders.get orderId = some r' → r'.status = .dispatchedToN8n →
    (∀ r, (reached lib settings before).orders.get orderId = some r → r.status ≠ .dispatchedToN8n) →
    ∃ order r, e.request.check lib settings = .ok (.dispatchOrder order) ∧ order.orderId = orderId ∧
      Dispatches lib settings e.now (reached lib settings before) order r
  approved : ∀ order r, e.request.check lib settings = .ok (.dispatchOrder order) →
    Dispatches lib settings e.now (reached lib settings before) order r → r.envelope.approval.required = true →
    ApprovedBefore lib settings before order.orderId r
  content : ∀ order r, e.request.check lib settings = .ok (.dispatchOrder order) →
    Dispatches lib settings e.now (reached lib settings before) order r → r.envelope.approval.required = true →
    order.contentText lib = r.envelope.contentText lib ∧ order.approvedActions = r.envelope.approvedActions

/-- The statuses of the order say that its approval stands: one of them was `APPROVED`, and those since then are neither final nor given
at intake. -/
def Standing (before : List Event) (orderId : String) : Prop :=
  ∃ earlier later, before = earlier ++ later ∧
    (∃ r, (reached lib settings earlier).orders.get orderId = some r ∧ r.status = .approved) ∧
    ∀ mid, mid <+: later → ∀ r, (reached lib settings (earlier ++ mid)).orders.get orderId = some r →
      r.status ∉ [OrderStatus.approvalRequired, .validated, .completed, .failedFinal, .deadLetter, .rejected]

/-- An order that is in need of an approval is dispatched while it stands, with the actions of the record, and with no other content of
its digest. -/
def Permitted (before : List Event) (e : Event) : Prop :=
  ∀ order r, e.request.check lib settings = .ok (.dispatchOrder order) →
    Dispatches lib settings e.now (reached lib settings before) order r → r.envelope.approval.required = true →
    Standing lib settings before order.orderId ∧ order.approvedActions = r.envelope.approvedActions ∧
      (Sha256.hexdigest (order.contentText lib) = Sha256.hexdigest (r.envelope.contentText lib) →
        order.contentText lib = r.envelope.contentText lib)

end Statements

/-! ## Runs -/

section Runs

variable {lib : Library} {settings : Settings} {before later : List Event} {e : Event} {orderId : String} {r : OrderRecord}

theorem reached_concat : reached lib settings (before ++ [e]) = step lib settings e (reached lib settings before) := runFrom_concat

theorem ordered_reached (lib : Library) (settings : Settings) (events : List Event) : (reached lib settings events).Ordered :=
  runFrom_invariant (I := OrderStore.Ordered) nofun fun _ _ h => (effect h).ordered h

theorem effect_reached : Effect lib settings (reached lib settings before) e (reached lib settings (before ++ [e])) := by
  rw [reached_concat]
  exact effect (ordered_reached lib settings before)

theorem intake_contentHash {r r' : OrderRecord} (h : r'.intake = r.intake) : r'.contentHash = r.contentHash := by
  simp only [OrderRecord.intake, Prod.mk.injEq] at h
  exact h.2.2.2.1

theorem intake_contentText (lib : Library) {r r' : OrderRecord} (h : r'.intake = r.intake) :
    r'.envelope.contentText lib = r.envelope.contentText lib :=
  congrArg (fun i => i.2.2.2.2.2.2.contentText lib) h

theorem hashed_reached (lib : Library) (settings : Settings) (events : List Event) (hr : (reached lib settings events).orders.get orderId = some r) :
    r.contentHash = Sha256.hexdigest (r.envelope.contentText lib) := by
  induction events using List.reverseRecOn generalizing orderId r with
  | nil => cases hr
  | append_singleton before e ih =>
    cases (effect_reached : Effect lib settings (reached lib settings before) e _) with
    | taken order hcheck h =>
      rw [h.orders] at hr
      split at hr
      · rw [← Option.some.inj hr]
        rfl
      · exact ih hr
    | moved order command h hcause hcommand =>
      obtain ⟨r₀, hr₀, hintake, -⟩ := h.came hr
      rw [intake_contentText lib hintake, ← ih hr₀]
      exact intake_contentHash hintake

/-- One more request, after which the order is in a status that is neither final nor given at intake. -/
theorem ApprovedBefore.extend {r' : OrderRecord} (h : ApprovedBefore lib settings before orderId r)
    (hr' : (reached lib settings (before ++ [e])).orders.get orderId = some r') (hintake : r'.intake = r.intake)
    (hopen : r'.status.terminal = false) : ApprovedBefore lib settings (before ++ [e]) orderId r' := by
  obtain ⟨earlier, a, later, approval, r₀, hbefore, hcheck, happroves, hown, hsince⟩ := h
  refine ⟨earlier, a, later ++ [e], approval, r₀, ?_, hcheck, happroves, hown.trans hintake.symm, fun mid hmid => ?_⟩
  · rw [hbefore, List.append_assoc, List.cons_append]
  · rcases List.prefix_concat_iff.1 hmid with hall | hmid
    · refine ⟨r', ?_, rfl, hopen⟩
      rw [hbefore, List.append_assoc, List.cons_append] at hr'
      rw [hall]
      exact hr'
    · obtain ⟨r₁, hr₁, hintake₁, hopen₁⟩ := hsince mid hmid
      exact ⟨r₁, hr₁, hintake₁.trans hintake.symm, hopen₁⟩

theorem approvedBefore_of_status (hr : (reached lib settings before).orders.get orderId = some r) (hstatus : r.status = .approved) :
    ApprovedBefore lib settings before orderId r := by
  induction before using List.reverseRecOn generalizing r with
  | nil => cases hr
  | append_singleton before e ih =>
    have hopen : r.status.terminal = false := by
      rw [hstatus]
      rfl
    obtain ⟨r₁, hr₁, hintake, hsame | hcause⟩ := effect_reached.came hr (by rw [hstatus]; decide)
    · exact (ih hr₁ (hsame.symm.trans hstatus)).extend hr hintake hopen
    · obtain ⟨approval, r₀, hcheck, happroves⟩ := hcause.approved hstatus
      have hown : r₀.intake = r.intake := by
        rw [Option.some.inj (happroves.got.symm.trans hr₁), hintake]
      refine ⟨before, e, [], approval, r₀, rfl, hcheck, happroves, hown, fun mid hmid => ?_⟩
      rw [List.prefix_nil.1 hmid]
      exact ⟨r, hr, rfl, hopen⟩

theorem approvedBefore_of_standing (h : Standing lib settings before orderId)
    (hr : (reached lib settings before).orders.get orderId = some r) : ApprovedBefore lib settings before orderId r := by
  obtain ⟨earlier, later, rfl, ⟨r₀, hr₀, hstatus⟩, hsince⟩ := h
  induction later using List.reverseRecOn generalizing r with
  | nil =>
    rw [List.append_nil] at hr ⊢
    rw [Option.some.inj (hr₀.symm.trans hr)] at hstatus
    exact approvedBefore_of_status hr hstatus
  | append_singleton later e ih =>
    have hnow := hsince (later ++ [e]) List.prefix_rfl r hr
    simp only [List.mem_cons, List.not_mem_nil, or_false, not_or] at hnow
    obtain ⟨hrequired, hvalidated, hcompleted, hfailed, hdead, hrejected⟩ := hnow
    rw [← List.append_assoc] at hr ⊢
    obtain ⟨r₁, hr₁, hintake, -⟩ := effect_reached.came hr ⟨hrequired, hvalidated⟩
    have hprior := ih hr₁ fun mid hmid => hsince mid (hmid.trans (List.prefix_append later [e]))
    refine hprior.extend hr hintake ?_
    simp [OrderStatus.terminal, hcompleted, hfailed, hdead, hrejected]

/-- Where orders are dispatched only while their approval stands, only approved orders are. -/
theorem only_approved (lib : Library) (settings : Settings) (events : List Event)
    (h : Throughout (Permitted lib settings) events) : Throughout (OnlyApproved lib settings) events := by
  rintro before e after heq
  have hpermitted := h before e after heq
  refine ⟨fun orderId r' hr' hstatus hbefore => ?_, fun order r hcheck hdispatches hrequired => ?_,
    fun order r hcheck hdispatches hrequired => ?_⟩
  · obtain ⟨r, hr, -, hsame | hcause⟩ := effect_reached.came hr' (by rw [hstatus]; decide)
    · exact absurd (hsame.symm.trans hstatus) (hbefore r hr)
    · exact hcause.dispatched hstatus
  · exact approvedBefore_of_standing (hpermitted order r hcheck hdispatches hrequired).1 hdispatches.got
  · obtain ⟨-, hactions, hfree⟩ := hpermitted order r hcheck hdispatches hrequired
    refine ⟨hfree ?_, hactions⟩
    rw [← hashed_reached lib settings before hdispatches.got, hdispatches.matching]
    rfl

/-! ### An approval, and none -/

theorem approved_then_dispatched {e e' e'' : Event} {order body : OrderEnvelope} {approval : ApprovalRequest}
    (hcheck : e.request.check lib settings = .ok (.receiveOrder order))
    (hcheck' : e'.request.check lib settings = .ok (.approveOrder order.orderId approval))
    (hcheck'' : e''.request.check lib settings = .ok (.dispatchOrder body)) (hid : body.orderId = order.orderId)
    (hhash : approval.contentHash = contentHash lib order) (hforeign : approval.approvedBy ≠ order.sourceSystem)
    (hactions : body.approvedActions = order.approvedActions) (hcontent : body.contentText lib = order.contentText lib) :
    Throughout (Permitted lib settings) [e, e', e''] := by
  rintro before a after heq o r hdispatch hdispatches hrequired
  rcases before with _ | ⟨b, _ | ⟨b', _ | ⟨b'', before⟩⟩⟩
  all_goals simp only [List.nil_append, List.cons_append, List.cons.injEq] at heq
  · rw [← heq.1, hcheck] at hdispatch
    cases hdispatch
  · rw [← heq.2.1, hcheck'] at hdispatch
    cases hdispatch
  · obtain ⟨rfl, rfl, rfl, -⟩ := heq
    rw [← Checked.dispatchOrder.inj (Except.ok.inj (hcheck''.symm.trans hdispatch))] at hdispatches ⊢
    -- the order is taken in, and its approval passes
    rcases receiveOrder_spec lib order {} with ⟨-, reply, s, hanswer, htaken⟩ | ⟨_, _, hkey, -⟩ | ⟨_, hkey, -⟩
    rotate_left
    · cases hkey
    · cases hkey
    have hstep : step lib settings e {} = s := congrArg Prod.snd ((answer_eq hcheck).trans hanswer)
    have happroves : Approves s order.orderId approval (newRecord lib order) := ⟨(htaken.orders _).trans (if_pos rfl), hhash, hforeign⟩
    rcases approveOrder_spec s order.orderId approval e'.now with ⟨r₀, happroves₀, reply', s', hanswer', hmoved⟩ | ⟨hnot, -⟩
    rotate_left
    · exact absurd happroves (hnot _)
    have hstep' : step lib settings e' s = s' := congrArg Prod.snd ((answer_eq hcheck').trans hanswer')
    have hreached : reached lib settings [e, e'] = s' := by
      show step lib settings e' (step lib settings e {}) = s'
      rw [hstep, hstep']
    obtain ⟨r', hr', hintake, hstatus⟩ := hmoved.got happroves.got
    rw [moved_self] at hstatus
    have hsame : r = r' := by
      have hgot := hdispatches.got
      rw [hreached, hid] at hgot
      exact Option.some.inj (hgot.symm.trans hr')
    rw [hsame]
    refine ⟨⟨[e, e'], [], rfl, ⟨r', ?_, hstatus⟩, fun mid hmid r₁ hr₁ => ?_⟩, ?_, fun _ => ?_⟩
    · rw [hreached, hid]
      exact hr'
    · rw [List.prefix_nil.1 hmid, List.append_nil, hreached, hid] at hr₁
      rw [← Option.some.inj (hr'.symm.trans hr₁), hstatus]
      decide
    · rw [hactions]
      exact (congrArg (fun i => i.2.2.2.2.2.2.approvedActions) hintake).symm
    · rw [hcontent]
      exact (intake_contentText lib hintake).symm
  · simp at heq

theorem unapproved_dispatched {e e' : Event} {order body : OrderEnvelope} (hcheck : e.request.check lib settings = .ok (.receiveOrder order))
    (hcheck' : e'.request.check lib settings = .ok (.dispatchOrder body)) (hid : body.orderId = order.orderId)
    (hvalid : validateForDispatch lib settings e'.now body = .ok ()) (hhash : contentHash lib order = contentHash lib body)
    (hrequired : order.approval.required = true) : ¬Throughout (OnlyApproved lib settings) [e, e'] := by
  intro h
  rcases receiveOrder_spec lib order {} with ⟨-, reply, s, hanswer, htaken⟩ | ⟨_, _, hkey, -⟩ | ⟨_, hkey, -⟩
  · have hreached : reached lib settings [e] = s := congrArg Prod.snd ((answer_eq hcheck).trans hanswer)
    have hdispatches : Dispatches lib settings e'.now (reached lib settings [e]) body (newRecord lib order) := by
      refine ⟨?_, hvalid, hhash⟩
      rw [hreached, htaken.orders, if_pos hid]
    obtain ⟨earlier, a, later, approval, r₀, heq, happroved, -⟩ := (h [e] e' [] rfl).approved body _ hcheck' hdispatches hrequired
    have ha : a ∈ [e] := by
      rw [heq]
      simp
    rw [List.mem_singleton.1 ha] at happroved
    cases hcheck.symm.trans happroved
  all_goals cases hkey

/-- The body of a dispatch, with the approval that it needs. -/
def sampleBody : OrderEnvelope :=
  { sampleOrder "order-intake-0001" with
    approval := { status := .approved, contentHash := contentHash sampleLibrary (sampleOrder "order-intake-0001") } }

def sampleDispatch : Event where
  request := .dispatchOrder sampleBody (.unsigned (sampleBody.normalizeApprovalFields.modelDump sampleLibrary))
  now := 1767225600

def sampleApproval : ApprovalRequest where
  approvedBy := "supervisor-1"
  contentHash := contentHash sampleLibrary (sampleOrder "order-intake-0001")

def sampleApprove : Event where
  request := .approveOrder "CODESTRA-INTEGRATION-TEST-1" sampleApproval (.unsigned sampleApproval.modelDump)
  now := 1767225600

theorem contentHash_length (lib : Library) (o : OrderEnvelope) : (contentHash lib o).length = 64 := by
  exact Sha256.hexdigest_length _

theorem fieldBounds_approval {o : OrderEnvelope} (h : o.fieldBounds = true) {approval : Approval}
    (hby : (approval.approvedBy.getD "").length ≤ 128) (hhash : approval.contentHash.length = 64) :
    ({ o with approval } : OrderEnvelope).fieldBounds = true := by
  unfold OrderEnvelope.fieldBounds bounded at h ⊢
  simp only [List.all_cons, List.all_nil, Bool.and_eq_true, decide_eq_true_eq] at h ⊢
  simp only [h, hby, hhash, Nat.zero_le, le_refl, and_self]

theorem contentHash_approval (lib : Library) (o : OrderEnvelope) (approval : Approval) :
    contentHash lib { o with approval } = contentHash lib o := rfl

theorem contentHash_normalize (lib : Library) (o : OrderEnvelope) : contentHash lib o.normalizeApprovalFields = contentHash lib o := rfl

theorem sampleDispatch_check : sampleDispatch.request.check sampleLibrary {} = .ok (.dispatchOrder sampleBody.normalizeApprovalFields) := by
  have hbounds : sampleBody.fieldBounds = true :=
    fieldBounds_approval (sampleOrder_bounds "order-intake-0001" (by decide) (by decide)) (by decide) (contentHash_length _ _)
  have hvalidated := validated_unsigned sampleLibrary {} rfl (OrderEnvelope.modelValidate_eq hbounds rfl)
    (·.modelDump sampleLibrary)
  unfold sampleDispatch Request.check
  dsimp only
  rw [hvalidated]
  rfl

theorem sampleApprove_check :
    sampleApprove.request.check sampleLibrary {} = .ok (.approveOrder "CODESTRA-INTEGRATION-TEST-1" sampleApproval) := by
  have hlength := contentHash_length sampleLibrary (sampleOrder "order-intake-0001")
  have hbounds : bounded [(sampleApproval.approvedBy, 1, 128), (sampleApproval.contentHash, 64, 64)] = true := by
    unfold bounded sampleApproval
    simp only [List.all_cons, List.all_nil, hlength]
    decide
  have hvalidated := validated_unsigned sampleLibrary {} rfl
    (show sampleApproval.modelValidate = .ok sampleApproval from if_pos hbounds) (·.modelDump)
  unfold sampleApprove Request.check
  dsimp only
  rw [hvalidated]
  rfl

theorem sampleBody_hash : contentHash sampleLibrary (sampleOrder "order-intake-0001") = contentHash sampleLibrary sampleBody :=
  (contentHash_approval sampleLibrary (sampleOrder "order-intake-0001") _).symm

theorem validateForDispatch_synthetic {now : Time} {o : OrderEnvelope} (hexpires : o.expiresAt.le (.utc now) = .ok false)
    (hworkflow : o.workflowCode ∈ allowedWorkflows) (hblocked : (o.requestedActions.any (· ∈ blockedActions)) = false)
    (hallowed : (o.requestedActions.all (· ∈ allowedActions)) = true) (happroved : o.approval.status = .approved)
    (hhash : o.approval.contentHash = contentHash lib o) (hsynthetic : isSynthetic o = true) :
    validateForDispatch lib settings now o = .ok () := by
  unfold validateForDispatch
  rw [hexpires]
  simp [hworkflow, hblocked, hallowed, happroved, hhash, hsynthetic]
  rfl

theorem sampleBody_valid : validateForDispatch sampleLibrary {} 1767225600 sampleBody.normalizeApprovalFields = .ok () := by
  refine validateForDispatch_synthetic (by decide) (by decide) (by decide) (by decide) rfl ?_ ?_
  · exact sampleBody_hash
  · decide +kernel

/-- An order is dispatched that was never approved. -/
theorem dispatched_unapproved : ¬∀ (lib : Library) (settings : Settings) (events : List Event),
    Throughout (OnlyApproved lib settings) events := by
  intro h
  have hhash : contentHash sampleLibrary (sampleOrder "order-intake-0001").normalizeApprovalFields =
      contentHash sampleLibrary sampleBody.normalizeApprovalFields := by
    exact sampleBody_hash
  exact unapproved_dispatched (sampleIntake_check "order-intake-0001" (sampleOrder_bounds _ (by decide) (by decide))) sampleDispatch_check rfl sampleBody_valid hhash rfl (h sampleLibrary {} _)

theorem only_approved_sample :
    Throughout (OnlyApproved sampleLibrary {}) [sampleIntake "order-intake-0001", sampleApprove, sampleDispatch] :=
  only_approved sampleLibrary {} _ (approved_then_dispatched (sampleIntake_check "order-intake-0001" (sampleOrder_bounds _ (by decide) (by decide))) sampleApprove_check sampleDispatch_check rfl
    (contentHash_normalize _ _).symm (by decide) rfl rfl)

end Runs

end Middleware.Orders
