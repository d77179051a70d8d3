/-
The resolver over a Redis that anybody writes to: a snapshot carries a signature of its endpoint, so what is served came
from the repository. The signature does not cover the key, and a copied snapshot is served for another request.
-/
import Middleware.Endpoint.Availability

namespace Middleware.Endpoint

open Lib

/-! ## Signed texts -/

section Texts

variable {a b : Obj} {α : Type}

theorem lookup_canon (h : (Json.obj a).canon = (Json.obj b).canon) (hb : (b.map Prod.fst).Nodup) (k : String) :
    (a.lookup k).map Json.canon = (b.lookup k).map Json.canon := by
  cases ha : a.lookup k with
  | some v =>
    obtain ⟨l₁, l₂, hl, -⟩ := List.lookup_eq_some_iff.1 ha
    obtain ⟨⟨k', w⟩, hm, rfl, hc⟩ := canon_obj_mem h (show (k, v) ∈ a by rw [hl]; simp)
    rw [lookup_of_mem hb hm]
    exact congrArg some hc.symm
  | none =>
    cases hw : b.lookup k with
    | none => rfl
    | some w =>
      obtain ⟨l₁, l₂, hl, -⟩ := List.lookup_eq_some_iff.1 hw
      obtain ⟨⟨k', v⟩, hm, rfl, -⟩ := canon_obj_mem h.symm (show (k, w) ∈ b by rw [hl]; simp)
      exact absurd (List.lookup_eq_none_iff.1 ha _ hm) (by simp)

theorem read_canon (h : (Json.obj a).canon = (Json.obj b).canon) (hb : (b.map Prod.fst).Nodup) (read : Json → Option α)
    (hread : ∀ v, read v.canon = read v) (k : String) : (a.lookup k >>= read) = (b.lookup k >>= read) := by
  have hmap : ∀ o : Option Json, (o >>= read) = (o.map Json.canon >>= read) := by
    intro o
    cases o with
    | none => rfl
    | some v => exact (hread v).symm
  rw [hmap, hmap (b.lookup k), lookup_canon h hb]

theorem textsOf_canon (v : Json) : textsOf v.canon = textsOf v := by
  cases v with
  | arr items =>
    show (canonItems items).mapM textOf = items.mapM textOf
    induction items with
    | nil => rfl
    | cons v rest ih =>
      have hv : textOf v.canon = textOf v := by cases v <;> rfl
      rw [canonItems, List.mapM_cons, List.mapM_cons, hv, ih]
  | null | bool | int | float | str | obj => rfl

theorem ofMembers_canon (h : (Json.obj a).canon = (Json.obj b).canon) (hb : (b.map Prod.fst).Nodup) :
    ResolvedEndpoint.ofMembers a = ResolvedEndpoint.ofMembers b := by
  have htext := read_canon h hb textOf fun v => by cases v <;> rfl
  have hint := read_canon h hb intOf fun v => by cases v <;> rfl
  have hbool := read_canon h hb boolOf fun v => by cases v <;> rfl
  have hoptional := read_canon h hb optionalTextOf fun v => by cases v <;> rfl
  have htexts := read_canon h hb textsOf textsOf_canon
  have hthen : ∀ {α β : Type} {read : Json → Option α} {k : String} (g : α → Option β),
      (a.lookup k >>= read) = (b.lookup k >>= read) →
      (a.lookup k >>= fun v => read v >>= g) = (b.lookup k >>= fun v => read v >>= g) := by
    intro α β read k g heq
    rw [← bind_assoc, ← bind_assoc, heq]
  unfold ResolvedEndpoint.ofMembers
  simp -zeta only [htext, hint, hbool, hthen _ (htexts "required_scopes"), hthen _ (hoptional "expires_at")]
  rfl

end Texts

theorem endpoint_valid (e : ResolvedEndpoint) : (Json.obj e.members).valid = true := by
  have hscopes : (Json.arr (e.requiredScopes.map .str)).valid = true := by
    rw [Json.valid, validItems_iff]
    intro v hv
    obtain ⟨s, -, rfl⟩ := List.mem_map.1 hv
    rfl
  have hexpires : (optionalValue e.expiresAt).valid = true := by cases e.expiresAt <;> rfl
  simp only [ResolvedEndpoint.members, Json.valid, validMembers, hexpires, Bool.and_true, Bool.true_and]
  exact hscopes

/-- A signed text is read as the one endpoint it was made of. -/
theorem endpoint_of_text {payload : Obj} {e e' : ResolvedEndpoint} (hvalid : (Json.obj payload).valid = true)
    (htext : dumps true (.obj payload) = dumps true (.obj e'.members)) (h : ResolvedEndpoint.ofMembers payload = some e) : e = e' := by
  have hcanon := dumps_inj hvalid (endpoint_valid e') htext
  rw [ofMembers_canon hcanon (by simp [ResolvedEndpoint.members]), ofMembers_members] at h
  exact (Option.some.inj h).symm

/-! ## Caches -/

/-- What verifies in a value has the text of one of the endpoints. -/
def Signed (cfg : Config) (known : Set ResolvedEndpoint) (value : Json) : Prop :=
  ∀ members payload, value = .obj members → members.lookup "resolved_endpoint" = some (.obj payload) →
    members.lookup "signature" = some (.str (cfg.sign (dumps true (.obj payload)))) →
    (Json.obj payload).valid = true ∧ ∃ e ∈ known, dumps true (.obj payload) = dumps true (.obj e.members)

structure Trusted (cfg : Config) (known : Set ResolvedEndpoint) (c : Caches) : Prop where
  l1 : ∀ m ∈ c.l1, m.2.endpoint ∈ known
  redis : ∀ m ∈ c.redis, Signed cfg known m.2.envelope

section Caches

variable {cfg : Config} {known known' : Set ResolvedEndpoint} {c : Caches} {request : ResolutionRequest} {now : ℚ}
  {generation : Int} {e : ResolvedEndpoint}

theorem Signed.mono {value : Json} (h : known ⊆ known') (hs : Signed cfg known value) : Signed cfg known' value := by
  intro members payload hvalue hpayload hsignature
  obtain ⟨hvalid, e, he, htext⟩ := hs members payload hvalue hpayload hsignature
  exact ⟨hvalid, e, h he, htext⟩

theorem Trusted.mono (h : known ⊆ known') (ht : Trusted cfg known c) : Trusted cfg known' c where
  l1 m hm := h (ht.l1 m hm)
  redis m hm := (ht.redis m hm).mono h

/-- The snapshot of an endpoint carries the signature of its own text. -/
theorem envelope_signed (he : e ∈ known) : Signed cfg known (envelope cfg e) := by
  intro members payload hvalue hpayload _
  cases hvalue
  rw [Obj.lookup_cons_ite, if_pos rfl] at hpayload
  cases hpayload
  exact ⟨endpoint_valid e, e, he, rfl⟩

theorem Trusted.moved (ht : Trusted cfg known c) (k : String) : Trusted cfg known { c with l1 := c.l1.moveToEnd k } := by
  refine ⟨fun m hm => ht.l1 m ?_, ht.redis⟩
  dsimp only [OrderedDict.moveToEnd] at hm
  split at hm
  · rename_i entry hentry
    rcases List.mem_append.1 hm with hm | hm
    · exact List.mem_of_mem_filter hm
    · rw [List.mem_singleton.1 hm]
      exact OrderedDict.mem_of_get hentry
  · exact hm

theorem Trusted.dropped (ht : Trusted cfg known c) : Trusted cfg known (dropped c request) :=
  ⟨fun m hm => ht.l1 m (List.mem_of_mem_filter hm), ht.redis⟩

theorem Trusted.putL1 (ht : Trusted cfg known c) (he : e ∈ known) : Trusted cfg known (putL1 cfg c request now e) := by
  have hset : ∀ {entry : L1Entry}, entry.endpoint ∈ known →
      Trusted cfg known { c with l1 := c.l1.set request.cacheHash entry } := by
    intro entry hentry
    refine ⟨fun m hm => ?_, ht.redis⟩
    rcases OrderedDict.mem_set hm with rfl | hm
    · exact hentry
    · exact ht.l1 m hm
  exact ⟨fun m hm => ((hset he).moved request.cacheHash).l1 m (List.mem_of_mem_drop hm), ht.redis⟩

theorem Trusted.written (ht : Trusted cfg known c) {k : String} {entry : RedisEntry} (hs : Signed cfg known entry.envelope) :
    Trusted cfg known { c with redis := c.redis.set k entry } := by
  refine ⟨ht.l1, fun m hm => ?_⟩
  rcases OrderedDict.mem_set hm with rfl | hm
  · exact hs
  · exact ht.redis m hm

/-- What Redis answers under a good signature is one of the endpoints. -/
theorem getL2_trusted (ht : Trusted cfg known c) (h : getL2 cfg c request now true generation = .ok (some e)) : e ∈ known := by
  unfold getL2 at h
  simp only [Bool.not_true, Bool.false_eq_true, if_false] at h
  split at h
  · cases h
  · rename_i members hread
    have hsigned : Signed cfg known (.obj members) := by
      unfold redisGet at hread
      split at hread
      · rename_i entry hentry
        split at hread
        · rw [← Option.some.inj hread]
          exact ht.redis _ (OrderedDict.mem_of_get hentry)
        · cases hread
      · cases hread
    split at h
    · rename_i payload signature hpayload hsignature
      split at h
      · cases h
      rename_i hverified
      split at h
      · rename_i fields
        split at h
        · rename_i endpoint hfields
          cases h
          rw [not_ne_iff.1 hverified] at hsignature
          obtain ⟨hvalid, e', he', htext⟩ := hsigned members fields rfl hpayload hsignature
          rwa [endpoint_of_text hvalid htext hfields]
        · cases h
      · cases h
    · cases h
    · cases h
    · cases h
  · cases h

theorem Trusted.resolve (ht : Trusted cfg known c) (request : ResolutionRequest) (now : ℚ) (generation : Int)
    (repository : RepositoryReply) (redisUp : Bool)
    (hknown : ∀ e rest, repository = .candidates (e :: rest) → e ∈ known) :
    (∀ e, (resolve cfg c request now generation repository redisUp).1 = .ok e → e ∈ known) ∧
      Trusted cfg known (resolve cfg c request now generation repository redisUp).2 := by
  have hresolves := resolve_resolves cfg c request now generation repository redisUp
  generalize Endpoint.resolve cfg c request now generation repository redisUp = x at hresolves
  cases hresolves with
  | hit _ _ entry fresh =>
    refine ⟨fun e h => ?_, ht.moved _⟩
    cases h
    exact ht.l1 _ (OrderedDict.mem_of_get fresh.1)
  | refused => exact ⟨fun e h => (by cases h), ht.dropped⟩
  | unstored endpoint rest =>
    refine ⟨fun e h => ?_, ht.dropped⟩
    cases h
    exact hknown _ rest rfl
  | stored endpoint rest =>
    refine ⟨fun e h => ?_, (ht.dropped.written (envelope_signed (hknown _ rest rfl))).putL1 (hknown _ rest rfl)⟩
    cases h
    exact hknown _ rest rfl
  | refilled endpoint missed found =>
    refine ⟨fun e h => ?_, ht.dropped.putL1 (getL2_trusted ht found)⟩
    cases h
    exact getL2_trusted ht found

end Caches

/-! ## Runs -/

variable {ι : Type} [DecidableEq ι]

/-- An action of the resolvers, or a value that somebody else writes to Redis. -/
inductive Move (ι : Type) where
  | act (a : Act ι)
  | write (key : String) (entry : RedisEntry)

def move (cfg : Config) (generation : ι → Int) : Move ι → World ι → World ι
  | .act a, w => step cfg generation a w
  | .write key entry, w => { w with redis := w.redis.set key entry }

/-- The endpoints that the repository has answered with, for whatever request. -/
def answered (moves : List (Move ι)) : Set ResolvedEndpoint :=
  {e | ∃ c rest, .act (.call c) ∈ moves ∧ c.repository = .candidates (e :: rest)}

/-- Nobody else signs: a signature that is written is that of an endpoint answered before. -/
def Unforged (cfg : Config) (moves : List (Move ι)) : Prop :=
  ∀ before key entry rest, moves = before ++ Move.write key entry :: rest → Signed cfg (answered before) entry.envelope

section Runs

variable {cfg : Config} {generation : ι → Int} {moves : List (Move ι)} {c : Call ι} {e : ResolvedEndpoint}

omit [DecidableEq ι] in
theorem answered_concat (m : Move ι) : answered moves ⊆ answered (moves ++ [m]) := by
  rintro e ⟨c, rest, hc, hrepository⟩
  exact ⟨c, rest, List.mem_append_left _ hc, hrepository⟩

omit [DecidableEq ι] in
theorem answered_call {e : ResolvedEndpoint} {rest : List ResolvedEndpoint} (h : c.repository = .candidates (e :: rest)) :
    e ∈ answered (moves ++ [Move.act (.call c)]) := ⟨c, rest, by simp, h⟩

/-- By induction from the last move. -/
theorem trusted_run (hunforged : Unforged cfg moves) (p : ι) :
    Trusted cfg (answered moves) ((runFrom (move cfg generation) {} moves).caches p) := by
  induction moves using List.reverseRecOn generalizing p with
  | nil => exact ⟨fun m hm => (by cases hm), fun m hm => (by cases hm)⟩
  | append_singleton moves m ih =>
    have ht := fun p => (ih (fun before key entry rest h => hunforged before key entry (rest ++ [m]) (by simp [h])) p).mono
      (answered_concat m)
    rw [runFrom_concat]
    cases m with
    | write key entry => exact (ht p).written ((hunforged moves key entry [] rfl).mono (answered_concat _))
    | act a =>
      cases a with
      | lose key => exact ⟨(ht p).l1, fun m hm => (ht p).redis m (List.mem_of_mem_filter hm)⟩
      | call c =>
        obtain ⟨-, hl1, hredis⟩ := (ht c.process).resolve c.request c.now (generation c.process) c.repository c.redisUp
          fun e rest h => answered_call h
        refine ⟨fun m hm => ?_, hredis⟩
        change m ∈ (step cfg generation (.call c) _).l1 p at hm
        rw [step_l1] at hm
        split at hm
        · exact hl1 m hm
        · exact (ht p).l1 m hm

/-- Whatever is written to Redis without a signature of its own, what is served was answered by the repository. -/
theorem served_answered (cfg : Config) (generation : ι → Int) (moves : List (Move ι)) (hunforged : Unforged cfg moves) (c : Call ι)
    (h : (c.resolve cfg generation (runFrom (move cfg generation) {} moves)).1 = .ok e) :
    e ∈ answered (moves ++ [.act (.call c)]) :=
  (((trusted_run hunforged c.process).mono (answered_concat _)).resolve _ _ _ c.repository c.redisUp fun _ _ h => answered_call h).1 e h

/-- A snapshot is served under whatever key it is written: the signature does not cover the request. -/
theorem copied_served {w : World ι} {expires : ℚ} (hl1 : w.l1 c.process = []) (hrepository : c.repository = .unavailable)
    (hup : c.redisUp = true) (hnow : c.now ≤ expires) : (c.resolve cfg generation (move cfg generation
      (.write (key c.request (generation c.process)) ⟨envelope cfg e, expires⟩) w)).1 = .ok e := by
  generalize hw : move cfg generation (.write _ _) w = w'
  have hget : Endpoint.get (w'.caches c.process) c.request c.now false = (none, w'.caches c.process) := by
    subst hw
    unfold Endpoint.get World.caches move
    rw [hl1]
    rfl
  have hholds : Holds cfg (w'.caches c.process) c.now c.request (generation c.process) e := by
    subst hw
    unfold Holds redisGet World.caches move
    rw [OrderedDict.get_set_self]
    exact if_pos hnow
  unfold Call.resolve Endpoint.resolve
  rw [hget, hrepository, hup]
  dsimp only
  rw [getL2_holds hholds]

end Runs

/-! ## A copied snapshot -/

def otherRequest : ResolutionRequest := { sampleRequest with eventType := "lead.created" }

/-- The snapshot of one request is written under the key of the other. -/
def copyingRun : List (Move Bool) :=
  [.act (.call ⟨false, sampleRequest, 0, .candidates [sampleEndpoint], true⟩),
    .write (key otherRequest 0) ⟨envelope sampleConfig sampleEndpoint, 60⟩]

/-- Another process asks while the repository is unavailable. -/
def misledCall : Call Bool := ⟨true, otherRequest, 30, .unavailable, true⟩

theorem copied_snapshot_served :
    (misledCall.resolve sampleConfig (fun _ => 0) (runFrom (move sampleConfig fun _ => 0) {} copyingRun)).1 = .ok sampleEndpoint ∧
    sampleEndpoint ∈ answered (copyingRun ++ [.act (.call misledCall)]) := by
  have hunforged : Unforged sampleConfig copyingRun := by
    rintro (_ | ⟨m, _ | ⟨m', before⟩⟩) k entry rest h
    · cases h
    · cases h
      exact envelope_signed ⟨_, [], List.mem_singleton_self _, rfl⟩
    · cases before <;> cases h
  have hserved : (misledCall.resolve sampleConfig (fun _ => 0)
      (runFrom (move sampleConfig fun _ => 0) {} copyingRun)).1 = .ok sampleEndpoint := by
    rw [copyingRun, runFrom_cons, runFrom_cons, runFrom_nil]
    exact copied_served (step_l1 sampleConfig _ _ _ true) rfl rfl (by norm_num [misledCall])
  exact ⟨hserved, served_answered _ _ _ hunforged _ hserved⟩

end Middleware.Endpoint
