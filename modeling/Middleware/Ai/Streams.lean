/-
Streamed output. The table of chunks is what the accepted calls of `append_chunk` leave when the first call wins each
sequence number of a job, whichever attempt it came from; a claim removes nothing. So the stream of a job is the output
of its last attempt exactly when that attempt was claimed before any chunk of the job was stored.
-/
import Middleware.Ai.Changes

namespace Middleware.Ai

open Ledger Lib

/-- The key of `ai_job_chunks`. -/
def Chunk.key (c : Chunk) : Uuid × Int := (c.jobId, c.sequence)

/-- The chunk of a call of `append_chunk` that does not raise. -/
def Step.accepted (s : Step) (db : Db) : Option Chunk :=
  match s.op with
  | .appendChunk l sequence content limit =>
    match appendChunk l sequence content limit s.now db, db.job l.jobId with
    | .ok _, some j => some ⟨l.jobId, j.organizationId, j.workspaceId, sequence, l.fencingToken, content⟩
    | _, _ => none
  | _ => none

/-- The chunks a run accepts, in their order. -/
def accepted (registrations : Dict String Registration) (steps : List Step) : List Chunk :=
  (steps.foldl (fun x s => (x.1 ++ (s.accepted x.2).toList, s.exec x.2))
    (([] : List Chunk), ({ registrations := registrations } : Db))).1

/-- The chunks that were appended under a fencing token of a job. -/
def appended (registrations : Dict String Registration) (steps : List Step) (id : Uuid) (fencingToken : Nat) :
    List Chunk :=
  ((accepted registrations steps).filter fun c => decide (c.jobId = id ∧ c.fencingToken = fencingToken)).foldl (insertNew Chunk.key) []

/-- The console serves the chunks of a job's last attempt and no others, from wherever a reader starts. -/
def StreamsOwn (registrations : Dict String Registration) (steps : List Step) (j : Job) : Prop :=
  ∀ last, Console.stream (run registrations steps) j.id j.organizationId j.workspaceId last =
    ((appended registrations steps j.id j.fencingToken).filter fun c => decide (last < c.sequence)).insertionSort chunkOrder

/-- No chunk of a job was stored when its last attempt was claimed. -/
def ClaimedClean (registrations : Dict String Registration) (steps : List Step) (j : Job) : Prop :=
  ∀ (done : List Step) s (rest : List Step) row,
    steps = done ++ s :: rest → s.claims (run registrations done) = some row → row.id = j.id →
    row.fencingToken = j.fencingToken → ∀ c ∈ (run registrations done).chunks, c.jobId ≠ j.id

/-! ## The table of chunks along a run -/

section Run

variable {registrations : Dict String Registration} {db : Db} {s : Step} {steps : List Step}

theorem exec_chunks_of_ne (h : ∀ l sequence content limit, s.op ≠ .appendChunk l sequence content limit) :
    (s.exec db).chunks = db.chunks := by
  have heffect := exec_effect s db
  generalize s.exec db = db' at heffect
  cases heffect with
  | streamed l sequence content limit j op => exact absurd op (h l sequence content limit)
  | _ => rfl

/-- An accepted chunk is stored unless its sequence number is taken; nothing else touches the table. -/
theorem exec_chunks (s : Step) (db : Db) : (s.exec db).chunks = (s.accepted db).toList.foldl (insertNew Chunk.key) db.chunks := by
  obtain ⟨op, now⟩ := s
  cases op with
  | appendChunk l sequence content limit =>
    unfold Step.accepted
    dsimp only
    cases hr : appendChunk l sequence content limit now db with
    | error e =>
      simp only [Step.exec, Step.effect, hr]
      rfl
    | ok r =>
      obtain ⟨r, db'⟩ := r
      have hexec : (Step.exec ⟨.appendChunk l sequence content limit, now⟩ db) = db' := by
        simp only [Step.exec, Step.effect, hr]
        rfl
      rw [hexec]
      obtain ⟨j, hj, hh, ⟨⟨c, hmem, hid, hseq⟩, -, rfl⟩ | ⟨hun, -, rfl⟩⟩ := appendChunk_ok hr
      · rw [hj]
        exact (if_pos (List.any_eq_true.2 ⟨c, hmem, by simp [Chunk.key, hid, hseq]⟩)).symm
      · rw [hj]
        refine (if_neg fun hany => ?_).symm
        obtain ⟨c, hmem, hc⟩ := List.any_eq_true.1 hany
        simp only [Chunk.key, decide_eq_true_eq, Prod.mk.injEq] at hc
        exact hun c hmem hc.1 hc.2
  | _ => exact exec_chunks_of_ne (by simp)

/-- An accepted chunk comes from the holder of the job's lease. -/
theorem accepted_row {c : Chunk} (h : s.accepted db = some c) : ∃ j, db.job c.jobId = some j ∧
    c.organizationId = j.organizationId ∧ c.workspaceId = j.workspaceId ∧ c.fencingToken = j.fencingToken ∧
    s.claims db = none := by
  obtain ⟨op, now⟩ := s
  cases op with
  | appendChunk l sequence content limit =>
    unfold Step.accepted at h
    dsimp only at h
    cases hr : appendChunk l sequence content limit now db with
    | error e => simp [hr] at h
    | ok r =>
      obtain ⟨j, hj, hh, -⟩ := appendChunk_ok hr
      rw [hr, hj] at h
      cases h
      simp only [Lease.holds, Bool.and_eq_true, beq_iff_eq] at hh
      exact ⟨j, hj, rfl, rfl, hh.1.1.2.symm, rfl⟩
  | _ => cases h

theorem accepted_concat (registrations : Dict String Registration) (steps : List Step) (s : Step) :
    accepted registrations (steps ++ [s]) =
      accepted registrations steps ++ (s.accepted (run registrations steps)).toList := by
  have hsnd : ∀ (l : List Step) (x : List Chunk × Db), (l.foldl (fun x s =>
      (x.1 ++ (s.accepted x.2).toList, s.exec x.2)) x).2 = l.foldl (fun db s => s.exec db) x.2 := by
    intro l
    induction l with
    | nil => exact fun x => rfl
    | cons s l ih => exact fun x => ih _
  simp only [accepted, run, List.foldl_append, List.foldl_cons, List.foldl_nil, hsnd]

theorem run_chunks (steps : List Step) :
    (run registrations steps).chunks = (accepted registrations steps).foldl (insertNew Chunk.key) [] := by
  induction steps using List.reverseRecOn with
  | nil => rfl
  | append_singleton steps s ih => rw [run_concat, exec_chunks, ih, accepted_concat, List.foldl_append]

/-- The rows of a job are the first writes among the chunks accepted for it. -/
theorem chunks_of_job (steps : List Step) (id : Uuid) :
    ((run registrations steps).chunks.filter fun c => decide (c.jobId = id)) =
      ((accepted registrations steps).filter fun c => decide (c.jobId = id)).foldl (insertNew Chunk.key) [] := by
  rw [run_chunks]
  exact inserted_filter Chunk.key Prod.fst (accepted registrations steps) [] id

theorem chunks_persist {c : Chunk} {done : List Step} (rest : List Step) (h : c ∈ (run registrations done).chunks) :
    c ∈ (run registrations (done ++ rest)).chunks := by
  induction rest using List.reverseRecOn with
  | nil => simpa using h
  | append_singleton rest s ih =>
    rw [← List.append_assoc, run_concat, exec_chunks]
    exact sub_inserted ih

/-- Accepted chunks carry the tenant of their job and a token that was its own. -/
theorem accepted_owned (steps : List Step) : ∀ c ∈ accepted registrations steps,
    ∃ j, (run registrations steps).job c.jobId = some j ∧ c.organizationId = j.organizationId ∧
      c.workspaceId = j.workspaceId ∧ c.fencingToken ≤ j.fencingToken := by
  induction steps using List.reverseRecOn with
  | nil => intro c hc; cases hc
  | append_singleton steps s ih =>
    intro c hc
    have hbefore : ∃ j, (run registrations steps).job c.jobId = some j ∧ c.organizationId = j.organizationId ∧
        c.workspaceId = j.workspaceId ∧ c.fencingToken ≤ j.fencingToken := by
      rw [accepted_concat, List.mem_append, Option.mem_toList] at hc
      rcases hc with hc | hc
      · exact ih c hc
      · obtain ⟨j, hj, ho, hw, ht, -⟩ := accepted_row hc
        exact ⟨j, hj, ho, hw, ht.le⟩
    obtain ⟨j, hj, ho, hw, ht⟩ := hbefore
    obtain ⟨j', hj', hc'⟩ := exec_row (run_keyed steps) s hj
    obtain ⟨ho', hw', ht'⟩ := change_frame hc'
    rw [run_concat]
    refine ⟨j', hj', ho.trans ho'.symm, hw.trans hw'.symm, ht.trans ?_⟩
    rcases ht' with ht' | ⟨ht', -⟩ <;> omega

/-- Where the last claim found no chunk of the job, all its chunks are of the last attempt. -/
theorem tokens_of_clean (steps : List Step) : ∀ id j, (run registrations steps).job id = some j →
    ClaimedClean registrations steps j → ∀ c ∈ accepted registrations steps, c.jobId = id →
      c.fencingToken = j.fencingToken := by
  induction steps using List.reverseRecOn with
  | nil => intro id j hj; cases hj
  | append_singleton steps s ih =>
    intro id j' hj' hclean c hc hid
    rw [accepted_concat, List.mem_append, Option.mem_toList] at hc
    have hrow : ∃ j, (run registrations steps).job id = some j := by
      subst hid
      rcases hc with hc | hc
      · obtain ⟨j, hj, -⟩ := accepted_owned steps c hc
        exact ⟨j, hj⟩
      · obtain ⟨j, hj, -⟩ := accepted_row hc
        exact ⟨j, hj⟩
    obtain ⟨j, hj⟩ := hrow
    obtain ⟨x, hx, hch⟩ := exec_row (run_keyed steps) s hj
    have hids : j'.id = j.id := (job_id hj').trans (job_id hj).symm
    rw [run_concat, hx] at hj'
    cases hj'
    rcases (change_frame hch).2.2 with htok | ⟨-, hclaims⟩
    · rw [htok]
      rcases hc with hc | hc
      · refine ih id j hj (fun done t rest row hsteps => ?_) c hc hid
        rw [← hids, ← htok]
        exact hclean done t (rest ++ [s]) row (by simp [hsteps])
      · obtain ⟨y, hy, -, -, ht, -⟩ := accepted_row hc
        rw [hid, hj] at hy
        cases hy
        exact ht
    · -- the claim of the last attempt is this one, and the job has no chunk before it
      rcases hc with hc | hc
      · obtain ⟨y, hy, hkey⟩ := inserted_of_mem (t := []) Chunk.key hc
        rw [← run_chunks] at hy
        have hyid : y.jobId = c.jobId := congrArg Prod.fst hkey
        exact absurd (hyid.trans (hid.trans ((job_id hj).symm.trans hids.symm)))
          (hclean steps s [] j' rfl hclaims rfl rfl y hy)
      · obtain ⟨-, -, -, -, -, hnone⟩ := accepted_row hc
        rw [hclaims] at hnone
        cases hnone

theorem stream_eq {id : Uuid} {j : Job} (hj : (run registrations steps).job id = some j) (last : Int) :
    Console.stream (run registrations steps) id j.organizationId j.workspaceId last =
      ((((accepted registrations steps).filter fun c => decide (c.jobId = id)).foldl (insertNew Chunk.key) []).filter
        fun c => decide (last < c.sequence)).insertionSort chunkOrder := by
  have hfilter : (run registrations steps).chunks.filter (fun c => c.jobId == id &&
      c.organizationId == j.organizationId && c.workspaceId == j.workspaceId && decide (last < c.sequence)) =
      ((run registrations steps).chunks.filter fun c => decide (c.jobId = id)).filter
        fun c => decide (last < c.sequence) := by
    rw [List.filter_filter]
    refine List.filter_congr fun c hc => ?_
    by_cases hid : c.jobId = id
    · rw [run_chunks] at hc
      rcases mem_inserted hc with hc | hc
      · cases hc
      obtain ⟨x, hx, ho, hw, -⟩ := accepted_owned steps c hc
      rw [hid, hj] at hx
      cases hx
      simp [hid, ho, hw]
    · simp [hid]
  unfold Console.stream
  rw [hfilter, chunks_of_job]

end Run

/-- In every run, the console streams exactly the chunks of a job's last attempt, which is the one that completed it if
the job is completed, if and only if no chunk of the job was stored when that attempt was claimed. -/
theorem streams_own_iff (registrations : Dict String Registration) (steps : List Step) (id : Uuid) (j : Job)
    (hj : (run registrations steps).job id = some j) :
    StreamsOwn registrations steps j ↔ ClaimedClean registrations steps j := by
  obtain rfl := job_id hj
  constructor
  · rintro h done s rest row hsteps hclaims hid htok c hc hcid
    obtain ⟨c₀, locked, active, j₀, -, -, hj₀, hrow₀, -⟩ := claims_row (run_keyed done) hclaims
    have htok₀ : row.fencingToken = j₀.fencingToken + 1 := by rw [hrow₀]; rfl
    have hlater := chunks_persist (s :: rest) hc
    rw [← hsteps] at hlater
    have hold : c ∈ accepted registrations done := by
      rw [run_chunks] at hc
      exact (mem_inserted hc).resolve_left (by simp)
    obtain ⟨x, hx, -, -, hle⟩ := accepted_owned done c hold
    rw [hcid, ← hid, hj₀] at hx
    cases hx
    -- the chunk is streamed, so it has the last token, which was not issued when it was stored
    have hstream : c ∈ Console.stream (run registrations steps) j.id j.organizationId j.workspaceId (c.sequence - 1) := by
      rw [stream_eq hj, ← chunks_of_job, List.mem_insertionSort, List.mem_filter, List.mem_filter]
      exact ⟨⟨hlater, by simp [hcid]⟩, by simp⟩
    rw [h, List.mem_insertionSort, List.mem_filter] at hstream
    have happended := (mem_inserted hstream.1).resolve_left (by simp)
    rw [List.mem_filter] at happended
    have : c.fencingToken = j.fencingToken := (of_decide_eq_true happended.2).2
    omega
  · intro hclean last
    have hown : ((accepted registrations steps).filter fun c => decide (c.jobId = j.id ∧ c.fencingToken = j.fencingToken)) =
        (accepted registrations steps).filter fun c => decide (c.jobId = j.id) := by
      refine List.filter_congr fun c hc => ?_
      by_cases hid : c.jobId = j.id
      · simp [hid, tokens_of_clean steps j.id j hj hclean c hc hid]
      · simp [hid]
    rw [stream_eq hj]
    unfold appended
    rw [hown]

namespace Synthetic

/-- The job, its one attempt and the chunk it streams. -/
def streamedOnce : List Step :=
  [⟨.insertJob { job with approvalRequired := false }, 0⟩, claimed 1, ⟨.appendChunk (worker 1) 0 "a" 100, 2⟩,
    ⟨.finish (worker 1) (.success "c"), 3⟩]

/-- The first attempt dies after one chunk, and the second one completes the job. -/
def streamedTwice : List Step :=
  [⟨.insertJob { job with approvalRequired := false, maxAttempts := 2 }, 0⟩, claimed 1,
    ⟨.appendChunk (worker 1) 0 "a" 100, 2⟩, ⟨.recoverExpired none none, 100⟩, claimed 101,
    ⟨.appendChunk (worker 2) 0 "b" 100, 102⟩, ⟨.finish (worker 2) (.success "c"), 103⟩]

end Synthetic

/-- The completed job of one attempt streams its chunk. -/
theorem streams_own_once : ∃ j, (run ∅ Synthetic.streamedOnce).job "job" = some j ∧ j.state = .completed ∧
    (StreamsOwn ∅ Synthetic.streamedOnce j ↔ ClaimedClean ∅ Synthetic.streamedOnce j) := by
  have hcheck : ((run ∅ Synthetic.streamedOnce).job "job").map (·.state) = some .completed := by decide +kernel
  obtain ⟨j, hj, hstate⟩ := Option.map_eq_some_iff.1 hcheck
  exact ⟨j, hj, hstate, streams_own_iff ∅ Synthetic.streamedOnce "job" j hj⟩

/-- The job that the second attempt completed streams the text of the first one. -/
theorem leftover_chunk_streamed : ∃ j, (run ∅ Synthetic.streamedTwice).job "job" = some j ∧ j.state = .completed ∧
    ¬ StreamsOwn ∅ Synthetic.streamedTwice j := by
  have hcheck : ((run ∅ Synthetic.streamedTwice).job "job").map
      (fun j => (j.id, j.organizationId, j.workspaceId, j.state, j.fencingToken)) =
      some ("job", "org", "ws", .completed, 2) := by decide +kernel
  have hstream : (Console.stream (run ∅ Synthetic.streamedTwice) "job" "org" "ws" (-1)).map (·.content) = ["a"] := by
    decide +kernel
  have happended : (((appended ∅ Synthetic.streamedTwice "job" 2).filter
      fun c => decide (-1 < c.sequence)).insertionSort chunkOrder).map (·.content) = ["b"] := by decide +kernel
  obtain ⟨j, hj, hrow⟩ := Option.map_eq_some_iff.1 hcheck
  simp only [Prod.mk.injEq] at hrow
  obtain ⟨hid, horg, hws, hstate, htoken⟩ := hrow
  refine ⟨j, hj, hstate, fun h => ?_⟩
  have := h (-1)
  rw [hid, horg, hws, htoken] at this
  rw [this, happended] at hstream
  exact absurd hstream (by decide)

end Middleware.Ai
