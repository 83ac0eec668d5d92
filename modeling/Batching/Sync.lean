/-
**The router in step with the server.**

The router's in-flight map and the server's cache hold the same requests twice: the router
removes an entry when it sends the request's last message, and tells the server with the status
of the batch it passes next; the server drops what the status reports. `batching_task` relies on
the two agreeing, since `process_next_tokens` panics on a token for a request the map no longer
holds. They agree for as long as the environment gives them no reason to part:

* the server answers every request it steps with a token: a per-request error can make
  `process_next_tokens` report every request complete while one is still in flight, and the
  server then drops a request the router still holds;
* no growth prefill that prunes the current batch fails: the loop clears the batch's completed
  ids as if the pruning had been done, and the server steps requests the router removed;
* the queue numbers a growing batch's requests in increasing order, after every request in
  flight, so that `send_errors` from its first id removes exactly the new requests, and gives it
  an id other than the current batch's.

* `Point.Synced`: what the map and the cache agree on at each point of the loop;
* `Synced.step`: one step in such an environment keeps the agreement, with one lemma per kind of
  step (a queue batch, a growth, the prefill, the growth prefill and `next_token`, each
  answered or failed);
* **`BenignRun.synchronised`**: in every such run the task never panics, and right before each
  `next_token` call the map holds exactly the requests the server will step.
-/

import Batching.Loop
import Batching.Calls

namespace Batching

variable {σ : Type}

/-! ### What the router and the server agree on -/

/-- The requests the server steps for the batches the router passes it: the live requests of
each, in order. -/
def Cache.served (c : Cache) (batches : List CachedBatch) : List Nat := batches.flatMap c.live

/-- Every request of `ids` is in flight with no token yet. -/
def InFlight.Unstarted (entries : InFlight (Entry σ)) (ids : List Nat) : Prop :=
  ∀ id ∈ ids, ∃ e, entries.get id = some e ∧ e.generatedTokens = 0

/-- What the router's map and the server's cache agree on at each point of the loop: with no
batch, nothing in flight; with batches, exactly the requests the server will step (and at a
growth the new batch's, numbered after every other); and no panic. -/
def Point.Synced (cache : Cache) (entries : InFlight (Entry σ)) : Point σ → Prop
  | .waiting => entries.keys = []
  | .prefilling batch => batch.ids.Nodup ∧ (∀ id, id ∈ entries.keys ↔ id ∈ batch.ids) ∧
      entries.Unstarted batch.ids
  | .stepping batch _ => (cache.live batch).Nodup ∧
      ∀ id, id ∈ entries.keys ↔ id ∈ cache.live batch
  | .growing batch _ newBatch firstNewId => (cache.live batch).Nodup ∧ newBatch.ids.Nodup ∧
      newBatch.id ≠ batch.batchId ∧ (∀ id ∈ cache.live batch, id < firstNewId) ∧
      (∀ id ∈ newBatch.ids, firstNewId ≤ id) ∧
      (∀ id, id ∈ entries.keys ↔ id ∈ cache.live batch ∨ id ∈ newBatch.ids) ∧
      entries.Unstarted newBatch.ids
  | .stepCall batches _ => (batches.map CachedBatch.batchId).Nodup ∧
      (cache.served batches).Nodup ∧ ∀ id, id ∈ entries.keys ↔ id ∈ cache.served batches
  | .finished => entries.keys = []
  | .crashed => False

/-- Not growing: the step loop calls `next_token` on the batch it holds. -/
theorem Point.Synced.stepCall_single {cache : Cache} {entries : InFlight (Entry σ)}
    {batch : CachedBatch} {waitingTokens : Nat}
    (agrees : (Point.stepping batch waitingTokens).Synced cache entries) :
    (Point.stepCall [batch] waitingTokens).Synced cache entries := by
  obtain ⟨distinct, keys⟩ := agrees
  exact ⟨List.nodup_singleton _, by simpa [Cache.served] using distinct,
    by simpa [Cache.served] using keys⟩

namespace BatchingTask

/-- The task in step with the server, with every entry in flight steppable. -/
structure Synced (t : BatchingTask σ) : Prop where
  agrees : t.point.Synced t.cache t.processor.entries
  steppable : ∀ id, (t.processor.slot id).Steppable

/-- The requests the pending call steps. -/
def pending (t : BatchingTask σ) : List Nat :=
  match t.point with
  | .prefilling batch => batch.ids
  | .growing _ _ newBatch _ => newBatch.ids
  | .stepCall batches _ => t.cache.served batches
  | _ => []

end BatchingTask

/-- An environment that keeps the task in step with the server: steppable queue batches, a growing
batch numbered in increasing order after every request in flight, under an id of its own, and a
server that answers every request it steps and fails no growth prefill that prunes. -/
def Input.benign (t : BatchingTask σ) : Input σ → Bool
  | .nextBatch (some batch) => batch.requests.all fun request => request.2.steppable
  | .grow _ (some newBatch) =>
    (newBatch.requests.all fun request => request.2.steppable) &&
      decide (newBatch.ids.Pairwise (· < ·)) &&
      (t.processor.entries.keys.all fun k => newBatch.ids.all (k < ·)) &&
      match t.point with
      | .stepping batch _ => newBatch.id != batch.batchId
      | _ => true
  | .answer _ choice =>
    (t.pending.all fun id => (choice.answer id).isOk) &&
      match t.point with
      | .growing batch _ _ _ => (toPrune batch).isEmpty || choice.failure.isNone
      | _ => true
  | _ => true

namespace BatchingTask

variable (cfg : Config) (dec : Decoder σ)

/-- The runs of `batching_task` in a benign environment. -/
inductive BenignRun : List (Event σ) → BatchingTask σ → Prop
  | start (health : Bool) : BenignRun [] (initial health)
  | step {history events : List (Event σ)} {t t' : BatchingTask σ} {input : Input σ} :
      BenignRun history t → input.allowed history = true → input.benign t = true →
      t.step cfg dec input = some (t', events) → BenignRun (history ++ events) t'

variable {cfg dec}

/-- A benign run is a run. -/
theorem BenignRun.run {history : List (Event σ)} {t : BatchingTask σ}
    (run : BenignRun cfg dec history t) : Run cfg dec history t := by
  induction run with
  | start health => exact .start health
  | step _ allowed _ stepped ih => exact .step ih allowed stepped

end BatchingTask

/-! ### The queue's batches -/

namespace QueueBatch

/-- What a fresh batch is made of. -/
theorem fresh_spec {history : List (Event σ)} {batch : QueueBatch σ}
    (fresh : batch.fresh history = true) :
    batch.ids ≠ [] ∧ batch.ids.Nodup ∧ ∀ request ∈ batch.requests, request.2.Fresh := by
  simp only [QueueBatch.fresh, Bool.and_eq_true, Bool.not_eq_true', List.isEmpty_eq_false,
    decide_eq_true_eq, List.all_eq_true] at fresh
  obtain ⟨⟨nonempty, distinct⟩, entries⟩ := fresh
  refine ⟨by simpa [QueueBatch.ids] using nonempty, distinct,
    fun request member => Entry.fresh_iff.mp (entries request member).2⟩

/-- An entry the queue's insertions leave in the map is one of the batch's, or was there. -/
theorem foldl_enter_get_eq_some : ∀ (requests : List (Nat × Entry σ)) (p : TokenProcessor σ)
    {k : Nat} {e : Entry σ},
    (requests.foldl (fun p request => p.enter request.1 request.2) p).entries.get k = some e →
      (k, e) ∈ requests ∨ p.entries.get k = some e
  | [], _, _, _, present => .inr present
  | (id, e₁) :: requests, p, k, e, present => by
    rcases foldl_enter_get_eq_some requests (p.enter id e₁) present with member | earlier
    · exact .inl (.tail _ member)
    · rw [TokenProcessor.enter_entries, InFlight.get_insert] at earlier
      split_ifs at earlier with same
      · cases earlier
        exact .inl (same ▸ .head _)
      · exact .inr earlier

theorem enterAll_get_eq_some {batch : QueueBatch σ} {p : TokenProcessor σ} {k : Nat}
    {e : Entry σ} (present : (batch.enterAll p).entries.get k = some e) :
    (k, e) ∈ batch.requests ∨ p.entries.get k = some e :=
  foldl_enter_get_eq_some batch.requests p present

/-- Entering a fresh batch of steppable entries keeps every entry steppable, and leaves the
batch's requests in flight with no token yet, when none of them was in flight. -/
theorem enterAll_synced {history : List (Event σ)} {batch : QueueBatch σ} {p : TokenProcessor σ}
    (fresh : batch.fresh history = true)
    (steppable : (batch.requests.all fun request => request.2.steppable) = true)
    (holds : ∀ id, (p.slot id).Steppable) (absent : ∀ id ∈ batch.ids, id ∉ p.entries.keys) :
    (∀ id, ((batch.enterAll p).slot id).Steppable) ∧
      (batch.enterAll p).entries.Unstarted batch.ids := by
  have entries := (fresh_spec fresh).2.2
  rw [List.all_eq_true] at steppable
  refine ⟨fun id e present => ?_, fun id member => ?_⟩
  · rcases enterAll_get_eq_some present with member | earlier
    · exact steppable _ member
    · exact holds id e earlier
  · obtain ⟨e, present⟩ := Option.isSome_iff_exists.mp
      (by simp [enterAll_get_isSome, member] : ((batch.enterAll p).entries.get id).isSome)
    rcases enterAll_get_eq_some present with request | earlier
    · exact ⟨e, present, (entries _ request).generatedTokens⟩
    · exact absurd (p.entries.mem_keys_of_get earlier) (absent id member)

end QueueBatch

/-! ### The steps that call nothing -/

/-! ### The batches after a growth -/

/-- A growth prunes nothing exactly when the current batch reports no completion. -/
theorem toPrune_eq_nil_iff {batch : CachedBatch} : toPrune batch = [] ↔ batch.status = some [] := by
  unfold toPrune
  rcases batch.status with _ | _ | ⟨_, _⟩ <;> simp

/-- After a failed growth that pruned nothing, the loop steps the current batch as it was. -/
theorem grownBatches_none_of_unpruned {batch : CachedBatch} (unpruned : toPrune batch = []) :
    grownBatches batch none = [batch] := by
  obtain ⟨batchId, status⟩ := batch
  obtain rfl : status = some [] := toPrune_eq_nil_iff.mp unpruned
  rfl

theorem grownBatches_ids_nodup {batch : CachedBatch} {newBatchId : Nat}
    {status : Option (List Nat)} (other : newBatchId ≠ batch.batchId) :
    ((grownBatches batch (some ⟨newBatchId, status⟩)).map CachedBatch.batchId).Nodup := by
  unfold grownBatches
  split <;> simp [Ne.symm other]

/-- **What the server steps after a successful growth**: the current batch as the growth prefill
pruned it, which the loop now passes with no completion, then the new batch after its status. -/
theorem Cache.served_grownBatches (c : Cache) {batch : CachedBatch} {newBatchId : Nat}
    {requests : List Nat} {status : Option (List Nat)} (other : newBatchId ≠ batch.batchId) :
    (((toPrune batch).foldl applyStatus c).update newBatchId (some requests)).served
        (grownBatches batch (some ⟨newBatchId, status⟩)) =
      c.live batch ++ (status.map fun completed => requests.filter (· ∉ completed)).getD [] := by
  obtain ⟨batchId, batchStatus⟩ := batch
  simp only at other
  rcases batchStatus with _ | _ | ⟨first, completed⟩ <;> cases status <;>
    simp [served, grownBatches, toPrune, live_eq, Ne.symm other, Function.comp_def]

namespace BatchingTask

variable {cfg : Config} {dec : Decoder σ} {t t' : BatchingTask σ} {events : List (Event σ)}
  {history : List (Event σ)}

theorem Synced.close (synced : t.Synced) {id : Nat}
    (stepped : t.step cfg dec (.close id) = some (t', events)) : t'.Synced := by
  cases stepped
  exact ⟨synced.agrees, synced.steppable⟩

theorem Synced.nextBatch (synced : t.Synced) {batch : Option (QueueBatch σ)}
    (allowed : (Input.nextBatch batch).allowed history = true)
    (benign : (Input.nextBatch batch).benign t = true)
    (stepped : t.step cfg dec (.nextBatch batch) = some (t', events)) : t'.Synced := by
  obtain ⟨agrees, steppable⟩ := synced
  simp only [step] at stepped
  split at stepped
  · rename_i waiting
    cases stepped
    rw [waiting] at agrees
    exact ⟨agrees, steppable⟩
  · rename_i batch waiting
    cases stepped
    rw [waiting] at agrees
    have empty : ∀ id, id ∉ t.processor.entries.keys := by
      simp [show t.processor.entries.keys = [] from agrees]
    obtain ⟨steppable', unstarted⟩ :=
      QueueBatch.enterAll_synced allowed benign steppable fun id _ => empty id
    refine ⟨⟨(QueueBatch.fresh_spec allowed).2.1, fun id => ?_, unstarted⟩, steppable'⟩
    simp [InFlight.mem_keys, QueueBatch.enterAll_get_isSome,
      (InFlight.mem_keys _ _).not.mp (empty id)]
  · cases stepped

/-- The first of the ids, in increasing order, is the least. -/
theorem first_le_of_pairwise {ids : List Nat} {first : Nat} (sorted : ids.Pairwise (· < ·))
    (head : ids.head? = some first) : ∀ id ∈ ids, first ≤ id := by
  cases ids with
  | nil => cases head
  | cons x rest =>
    cases head
    rw [List.pairwise_cons] at sorted
    rintro id (_ | ⟨_, later⟩)
    · exact le_rfl
    · exact (sorted.1 id later).le

theorem Synced.grow (synced : t.Synced) {tooLong : Bool} {newBatch : Option (QueueBatch σ)}
    (allowed : (Input.grow tooLong newBatch).allowed history = true)
    (benign : (Input.grow tooLong newBatch).benign t = true)
    (stepped : t.step cfg dec (.grow tooLong newBatch) = some (t', events)) : t'.Synced := by
  obtain ⟨agrees, steppable⟩ := synced
  simp only [step] at stepped
  split at stepped
  · rename_i batch waitingTokens stepping
    rw [stepping] at agrees
    split_ifs at stepped
    · split at stepped
      · rename_i newBatch
        simp only [Input.benign, stepping, Bool.and_eq_true, decide_eq_true_eq, List.all_eq_true,
          bne_iff_ne, ne_eq] at benign
        obtain ⟨⟨⟨steppableNew, sorted⟩, below⟩, otherId⟩ := benign
        have absent : ∀ id ∈ newBatch.ids, id ∉ t.processor.entries.keys := fun id member known =>
          lt_irrefl id (below id known id member)
        obtain ⟨steppable', unstarted⟩ := QueueBatch.enterAll_synced allowed
          (List.all_eq_true.mpr steppableNew) steppable absent
        split at stepped
        · rename_i firstNewId first
          cases stepped
          have least := first_le_of_pairwise sorted first
          refine ⟨⟨agrees.1, (QueueBatch.fresh_spec allowed).2.1, otherId,
            fun id live => below id ((agrees.2 id).mpr live) _ (List.mem_of_mem_head? first), least,
            fun id => ?_, unstarted⟩, steppable'⟩
          simp [InFlight.mem_keys, QueueBatch.enterAll_get_isSome, ← agrees.2 id, or_comm]
        · rename_i empty
          exact absurd (List.head?_eq_none_iff.mp empty) (QueueBatch.fresh_spec allowed).1
      · cases stepped
        exact ⟨agrees.stepCall_single, steppable⟩
    · cases stepped
      exact ⟨agrees.stepCall_single, steppable⟩
  · cases stepped

/-! ### The steps that call the server -/

/-- A prefill returns input tokens for each request of the new batch, in order. -/
theorem Cache.prompts_requestIds (choice : BackendChoice) (ids : List Nat) :
    (ids.map fun id => (⟨id, choice.prompt id⟩ : InputTokens)).map InputTokens.requestId = ids := by
  rw [List.map_map]
  exact List.map_id _

/-- Over batches of distinct ids, `next_token` steps the requests the router's batches serve. -/
theorem Cache.nextToken_live {c : Cache} {batches : List CachedBatch}
    (distinct : (batches.map CachedBatch.batchId).Nodup) :
    batches.flatMap
        (fun batch => ((batches.foldl Cache.applyStatus c).held batch.batchId).getD []) =
      c.served batches :=
  List.flatMap_congr fun batch member => by rw [c.held_foldl_applyStatus distinct member]; rfl

/-- An answered call on requests the map holds exactly: the server caches them under the call's
batch id, and the step loop's next batch is that id with the status `wrap_future` reports. -/
theorem stepping_synced {p q : TokenProcessor σ} {requests : List Nat} {cache : Cache}
    {batchId : Nat} {status : Option (List Nat)} {waitingTokens : Nat}
    (distinct : requests.Nodup) (keys : ∀ id, id ∈ p.entries.keys ↔ id ∈ requests)
    (unnamed : ∀ id ∉ requests, id ∈ q.entries.keys ↔ id ∈ p.entries.keys)
    (server : (status.map fun completed => requests.filter (· ∉ completed)).getD [] =
      requests.filter (· ∈ q.entries.keys)) :
    (Point.stepping ⟨batchId, status⟩ waitingTokens).Synced
      (cache.update batchId (some requests)) q.entries := by
  simp only [Point.Synced, Cache.live_update_self, server]
  refine ⟨distinct.filter _, fun id => ?_⟩
  by_cases member : id ∈ requests
  · simp [member]
  · simp [member, unnamed id member, keys id]

theorem Synced.afterCall_answered (ends : dec.EndsWithPieces)
    (steppable : ∀ id, (t.processor.slot id).Steppable) {requests : List Nat}
    (distinct : requests.Nodup) (keys : ∀ id, id ∈ t.processor.entries.keys ↔ id ∈ requests)
    {choice : BackendChoice} (ok : ∀ id ∈ requests, (choice.answer id).isOk = true)
    {inputs : List InputTokens} (inputsDistinct : (inputs.map InputTokens.requestId).Nodup)
    (unstarted : t.processor.entries.Unstarted (inputs.map InputTokens.requestId))
    (cache : Cache) (batchId : Nat) (clock : Nat → Nat) (waitingTokens : Nat) :
    (t.afterCall dec (cache.update batchId (some requests)) clock
      (.ok (some ((Cache.respond choice requests).1, inputs, (Cache.respond choice requests).2,
        batchId))) waitingTokens).1.Synced := by
  obtain ⟨tokens, noErrors⟩ := Cache.respond_of_ok ok
  rw [noErrors]
  obtain ⟨q, status, done, unnamed, server⟩ := TokenProcessor.wrapFuture_answered dec clock ends
    steppable batchId none (by rw [tokens]; exact distinct)
    (fun id member => (keys id).mpr (by rwa [tokens] at member))
    inputsDistinct fun input member => unstarted _ (List.mem_map_of_mem _ member)
  rw [tokens] at unnamed server
  simp only [afterCall, done]
  exact ⟨stepping_synced distinct keys unnamed server,
    TokenProcessor.wrapFuture_steppable done steppable⟩

theorem Synced.afterCall_failed (steppable : ∀ id, (t.processor.slot id).Steppable)
    (error : ClientError) (cache : Cache) (clock : Nat → Nat) (waitingTokens : Nat) :
    (t.afterCall dec cache clock (.error error) waitingTokens).1.Synced := by
  have done : t.processor.wrapFuture dec clock (.error error) none =
      some ({ t.processor with generationHealth := false }.sendErrors error none, none) := rfl
  simp only [afterCall, done]
  exact ⟨by simp [Point.Synced, TokenProcessor.keepOnError],
    TokenProcessor.wrapFuture_steppable done steppable⟩

theorem Synced.answer_prefilling (ends : dec.EndsWithPieces) (synced : t.Synced)
    {batch : QueueBatch σ} (prefilling : t.point = .prefilling batch) {clock : Nat → Nat}
    {choice : BackendChoice} (benign : (Input.answer clock choice).benign t = true)
    (stepped : t.step cfg dec (.answer clock choice) = some (t', events)) : t'.Synced := by
  obtain ⟨agrees, steppable⟩ := synced
  rw [prefilling] at agrees
  obtain ⟨distinct, keys, unstarted⟩ := agrees
  simp only [Input.benign, pending, prefilling, Bool.and_true, List.all_eq_true] at benign
  simp only [step, prefilling, Option.some.injEq] at stepped
  cases failed : choice.failure with
  | some error =>
    simp only [Cache.prefill, failed] at stepped
    rw [show t' = _ from (congrArg Prod.fst stepped).symm]
    exact Synced.afterCall_failed steppable error _ clock 1
  | none =>
    simp only [Cache.prefill, failed, List.foldl_nil] at stepped
    rw [show t' = _ from (congrArg Prod.fst stepped).symm]
    exact Synced.afterCall_answered ends steppable distinct keys benign
      (by rw [Cache.prompts_requestIds]; exact distinct)
      (by rw [Cache.prompts_requestIds]; exact unstarted) _ _ clock 1

theorem Synced.answer_stepCall (ends : dec.EndsWithPieces) (synced : t.Synced)
    {batches : List CachedBatch} {waitingTokens : Nat}
    (stepCall : t.point = .stepCall batches waitingTokens) {clock : Nat → Nat}
    {choice : BackendChoice} (benign : (Input.answer clock choice).benign t = true)
    (stepped : t.step cfg dec (.answer clock choice) = some (t', events)) : t'.Synced := by
  obtain ⟨agrees, steppable⟩ := synced
  rw [stepCall] at agrees
  obtain ⟨idsDistinct, distinct, keys⟩ := agrees
  simp only [Input.benign, pending, stepCall, Bool.and_true, List.all_eq_true] at benign
  simp only [step, stepCall, Option.some.injEq] at stepped
  cases failed : choice.failure with
  | some error =>
    simp only [Cache.nextToken, failed] at stepped
    rw [show t' = _ from (congrArg Prod.fst stepped).symm]
    exact Synced.afterCall_failed steppable error _ clock _
  | none =>
    simp only [Cache.nextToken, failed, Cache.nextToken_live idsDistinct] at stepped
    split_ifs at stepped with empty
    · rw [show t' = _ from (congrArg Prod.fst stepped).symm]
      refine ⟨List.eq_nil_iff_forall_not_mem.mpr fun id known => ?_, steppable⟩
      simpa [empty] using (keys id).mp known
    · rw [show t' = _ from (congrArg Prod.fst stepped).symm]
      exact Synced.afterCall_answered ends steppable distinct keys benign (by exact List.nodup_nil)
        (fun _ member => by cases member) _ _ clock _

theorem Synced.answer_growing (ends : dec.EndsWithPieces) (synced : t.Synced)
    {batch : CachedBatch} {batchSize firstNewId : Nat} {newBatch : QueueBatch σ}
    (growing : t.point = .growing batch batchSize newBatch firstNewId) {clock : Nat → Nat}
    {choice : BackendChoice} (benign : (Input.answer clock choice).benign t = true)
    (stepped : t.step cfg dec (.answer clock choice) = some (t', events)) : t'.Synced := by
  obtain ⟨agrees, steppable⟩ := synced
  rw [growing] at agrees
  obtain ⟨distinct, newDistinct, other, below, above, keys, unstarted⟩ := agrees
  simp only [Input.benign, pending, growing, Bool.and_eq_true, List.all_eq_true, Bool.or_eq_true,
    List.isEmpty_iff, Option.isNone_iff_eq_none] at benign
  obtain ⟨ok, pruneOk⟩ := benign
  simp only [step, growing] at stepped
  cases failed : choice.failure with
  | some error =>
    have unpruned : toPrune batch = [] := pruneOk.resolve_right (by simp [failed])
    have done : t.processor.wrapFuture dec clock (.error error) (some firstNewId) =
        some ({ t.processor with generationHealth := false }.sendErrors error (some firstNewId),
          none) := rfl
    simp only [Cache.prefill, failed, done, Option.some.injEq] at stepped
    rw [show t' = _ from (congrArg Prod.fst stepped).symm]
    refine ⟨?_, TokenProcessor.wrapFuture_steppable done steppable⟩
    simp only [grownBatches_none_of_unpruned unpruned]
    refine ⟨List.nodup_singleton _, by simpa [Cache.served] using distinct, fun id => ?_⟩
    simp only [TokenProcessor.sendErrors_entries, InFlight.keys_retain, List.mem_filter, keys,
      TokenProcessor.keepOnError, decide_eq_true_eq, Cache.served, List.flatMap_singleton]
    constructor
    · rintro ⟨live | new, early⟩
      · exact live
      · exact absurd (above id new) (Nat.not_le.mpr early)
    · exact fun live => ⟨.inl live, below id live⟩
  | none =>
    simp only [Cache.prefill, failed] at stepped
    obtain ⟨tokens, noErrors⟩ := Cache.respond_of_ok ok
    obtain ⟨q, status, done, unnamed, server⟩ := TokenProcessor.wrapFuture_answered dec clock ends
      steppable newBatch.id (some firstNewId) (by rw [tokens]; exact newDistinct)
      (fun id member => (keys id).mpr (.inr (by rwa [tokens] at member)))
      (by rw [Cache.prompts_requestIds]; exact newDistinct)
      fun input member => unstarted _ (Cache.prompts_requestIds choice newBatch.ids ▸
        List.mem_map_of_mem _ member)
    rw [tokens] at unnamed server
    rw [noErrors] at stepped
    simp only [done, Option.some.injEq] at stepped
    rw [show t' = _ from (congrArg Prod.fst stepped).symm]
    refine ⟨⟨grownBatches_ids_nodup other, ?_, fun id => ?_⟩,
      TokenProcessor.wrapFuture_steppable done steppable⟩
    · rw [Cache.served_grownBatches _ other, server]
      exact List.nodup_append.mpr ⟨distinct, newDistinct.filter _, fun id live new =>
        absurd (above id (List.mem_of_mem_filter new)) (Nat.not_le.mpr (below id live))⟩
    · rw [Cache.served_grownBatches _ other, server, List.mem_append, List.mem_filter]
      by_cases new : id ∈ newBatch.ids
      · have old : id ∉ t.cache.live batch := fun live =>
          absurd (above id new) (Nat.not_le.mpr (below id live))
        simp [new, old]
      · simp [new, unnamed id new, keys id]

theorem Synced.answer (ends : dec.EndsWithPieces) (synced : t.Synced) {clock : Nat → Nat}
    {choice : BackendChoice} (benign : (Input.answer clock choice).benign t = true)
    (stepped : t.step cfg dec (.answer clock choice) = some (t', events)) : t'.Synced := by
  cases point : t.point with
  | prefilling batch => exact synced.answer_prefilling ends point benign stepped
  | growing batch batchSize newBatch firstNewId =>
    exact synced.answer_growing ends point benign stepped
  | stepCall batches waitingTokens => exact synced.answer_stepCall ends point benign stepped
  | waiting | stepping | finished | crashed => simp [step, point] at stepped

/-! ### Every benign run -/

/-- **One step in a benign environment keeps the task in step with the server.** -/
theorem Synced.step (ends : dec.EndsWithPieces) (synced : t.Synced) {input : Input σ}
    (allowed : input.allowed history = true) (benign : input.benign t = true)
    (stepped : t.step cfg dec input = some (t', events)) : t'.Synced := by
  cases input with
  | close id => exact synced.close stepped
  | nextBatch batch => exact synced.nextBatch allowed benign stepped
  | grow tooLong newBatch => exact synced.grow allowed benign stepped
  | answer clock choice => exact synced.answer ends benign stepped

theorem synced_initial (health : Bool) : (initial health : BatchingTask σ).Synced :=
  ⟨rfl, fun _ _ present => by cases present⟩

theorem BenignRun.synced (ends : dec.EndsWithPieces) (run : BenignRun cfg dec history t) :
    t.Synced := by
  induction run with
  | start health => exact synced_initial health
  | step _ allowed benign stepped ih => exact ih.step ends allowed benign stepped

/-- **The router stays in step with the server.** In every run in such an environment the task
never panics, and at the loop's head and before each `next_token` call the in-flight map holds
exactly the requests the server will step. -/
theorem BenignRun.synchronised (ends : dec.EndsWithPieces) (run : BenignRun cfg dec history t) :
    t.point ≠ .crashed ∧
      (∀ batch waitingTokens, t.point = .stepping batch waitingTokens →
        ∀ id, id ∈ t.processor.entries.keys ↔ id ∈ t.cache.live batch) ∧
      ∀ batches waitingTokens, t.point = .stepCall batches waitingTokens →
        ∀ id, id ∈ t.processor.entries.keys ↔ id ∈ t.cache.served batches := by
  have agrees := (run.synced ends).agrees
  refine ⟨fun crashed => ?_, fun batch waitingTokens stepping => ?_,
    fun batches waitingTokens stepCall => ?_⟩
  · rw [crashed] at agrees
    exact agrees
  · rw [stepping] at agrees
    exact agrees.2
  · rw [stepCall] at agrees
    exact agrees.2.2

/-- Requests 1 and 2, the first batch the queue forms. -/
def firstBatch : QueueBatch Text :=
  ⟨0, [(1, TokenProcessor.plainEntry), (2, TokenProcessor.plainEntry)]⟩

/-- Requests 1 and 2 prefilled, then about to be stepped by `next_token`. -/
def prefilled : BatchingTask Text × List (Event Text) :=
  ((initial false).step growthConfig byteDecoder (.nextBatch (some firstBatch))).getD
    (initial false, [])

def firstAnswered : BatchingTask Text × List (Event Text) :=
  (prefilled.1.step growthConfig byteDecoder (.answer (fun _ => 0) steady)).getD
    (initial false, [])

def firstCall : BatchingTask Text × List (Event Text) :=
  (firstAnswered.1.step growthConfig byteDecoder (.grow false none)).getD (initial false, [])

theorem firstCall_run : BenignRun growthConfig byteDecoder
    ([] ++ prefilled.2 ++ firstAnswered.2 ++ firstCall.2) firstCall.1 :=
  .step (.step (.step (.start false) (by rfl) (by rfl)
      (rfl : (initial false).step growthConfig byteDecoder (.nextBatch (some firstBatch)) =
        some prefilled))
    (by rfl) (by rfl)
      (rfl : prefilled.1.step growthConfig byteDecoder (.answer (fun _ => 0) steady) =
        some firstAnswered))
    (by rfl) (by rfl)
      (rfl : firstAnswered.1.step growthConfig byteDecoder (.grow false none) = some firstCall)

/-- Before the first `next_token` call the map holds requests 1 and 2, which the server steps. -/
theorem firstCall_synchronised :
    firstCall.1.point ≠ .crashed ∧
      (∀ batch waitingTokens, firstCall.1.point = .stepping batch waitingTokens →
        ∀ id, id ∈ firstCall.1.processor.entries.keys ↔ id ∈ firstCall.1.cache.live batch) ∧
      ∀ batches waitingTokens, firstCall.1.point = .stepCall batches waitingTokens →
        ∀ id, id ∈ firstCall.1.processor.entries.keys ↔ id ∈ firstCall.1.cache.served batches :=
  BenignRun.synchronised TokenProcessor.byteDecoder_endsWithPieces firstCall_run

end BatchingTask

end Batching
