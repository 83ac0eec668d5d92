/-
**How many requests a growth leaves in flight.**

At the head of each iteration of the step loop, `batching_task` takes `batch_size`, the number
of entries in flight (line 357). When the growth decision holds and the queue forms a new batch,
the queue puts its entries in the map and the task calls the growth prefill. If that call returns
a cached batch, the task takes `new_batch_size` and computes
`added_batch_size = new_batch_size - batch_size` (lines 403-404), a `usize` subtraction that
panics on underflow.

It never underflows. The queue admits only requests it never admitted before, so at the growth
prefill the entries the iteration started with are still in flight beside the new ones. An
answered call removes only requests it returns a token or an error for
(`TokenProcessor.wrapFuture_keeps_unnamed`), and the prefill of a new batch returns those for the
new batch's requests only (`Cache.prefill_names`).

* `BatchingTask.Run.get_unadmitted`: a request the queue has not admitted has no entry;
* `BatchingTask.step_growing_cases`: how the task comes to the growth prefill;
* `Point.GrowthSized`, `BatchingTask.Run.growthSized`: at the growth prefill the map holds
  `batch_size` entries besides the new batch's, in every run;
* **`BatchingTask.Run.batchSize_le_newBatchSize`**: after every growth prefill that returns a
  cached batch, `batch_size ≤ new_batch_size`.
-/

import Batching.Drain
import Mathlib.Data.List.Perm.Subperm

namespace Batching

variable {σ : Type}

/-! ### What the queue inserts -/

namespace QueueBatch

/-- A request the queue's insertion of a batch does not admit is not one of the batch's. -/
theorem not_mem_ids_of_unadmitted {batch : QueueBatch σ} {id : Nat}
    (fresh : admitted batch.events id = none) : id ∉ batch.ids := by
  simp only [admitted, events, List.findSome?_eq_none_iff, List.mem_map] at fresh
  intro member
  obtain ⟨request, listed, rfl⟩ := List.mem_map.mp member
  simpa [Event.admits] using fresh _ ⟨request, listed, rfl⟩

/-- A batch the queue may form holds requests the run never admitted. -/
theorem fresh_unadmitted {history : List (Event σ)} {batch : QueueBatch σ}
    (fresh : batch.fresh history = true) {id : Nat} (member : id ∈ batch.ids) :
    admitted history id = none := by
  simp only [QueueBatch.fresh, Bool.and_eq_true, List.all_eq_true] at fresh
  obtain ⟨request, listed, rfl⟩ := List.mem_map.mp member
  exact Option.isNone_iff_eq_none.mp (fresh.2 request listed).1

/-- Besides a batch of requests not in flight, the queue's insertion leaves the entries that
were. -/
theorem enterAll_others (batch : QueueBatch σ) (p : TokenProcessor σ)
    (fresh : ∀ id ∈ batch.ids, id ∉ p.entries.keys) :
    (batch.enterAll p).entries.keys.filter (· ∉ batch.ids) = p.entries.keys := by
  obtain ⟨added, keys, mem⟩ := batch.enterAll_keys p
  rw [keys, List.filter_append, List.filter_eq_self.mpr, List.filter_eq_nil_iff.mpr,
    List.append_nil]
  · exact fun id member => by simpa using mem id member
  · exact fun id member => by simpa using fun new => fresh id new member

end QueueBatch

namespace BatchingTask

variable {cfg : Config} {dec : Decoder σ}

/-- **A request the queue has not admitted has no entry**, in every run of the task. -/
theorem Run.get_unadmitted {history : List (Event σ)} {t : BatchingTask σ}
    (run : Run cfg dec history t) {id : Nat} (fresh : admitted history id = none) :
    t.processor.entries.get id = none := by
  induction run with
  | start => rfl
  | @step history events t t' input run _ stepped ih =>
    simp only [admitted, List.findSome?_append, Option.or_eq_none] at fresh
    have vacant := ih fresh.1
    rcases step_cases stepped with ⟨-, same⟩ | ⟨k, -, closed⟩ | ⟨batch, -, rfl, entered⟩ |
      ⟨clock, result, startId, -, applied⟩
    · rw [same]
      exact vacant
    · rw [closed]
      exact vacant
    · rw [entered, batch.enterAll_get_of_not_mem _ (QueueBatch.not_mem_ids_of_unadmitted fresh.2),
        vacant]
    · obtain ⟨⟨q, batch⟩, done, rfl⟩ := Option.map_eq_some'.mp applied
      exact (InFlight.get_eq_none_iff _).mpr fun after =>
        (t.processor.entries.get_eq_none_iff).mp vacant
          (TokenProcessor.wrapFuture_mem_keys done after)

/-! ### How the task comes to the growth prefill -/

/-- A call's end is never the growth prefill. -/
theorem afterCall_not_growing {t t' : BatchingTask σ} {cache : Cache} {clock : Nat → Nat}
    {result : TokenProcessor.CallResult} {waitingTokens : Nat} {events : List (Event σ)}
    (called : t.afterCall dec cache clock result waitingTokens = (t', events))
    {batch : CachedBatch} {batchSize firstNewId : Nat} {newBatch : QueueBatch σ} :
    t'.point ≠ .growing batch batchSize newBatch firstNewId := by
  unfold afterCall at called
  split at called <;> cases called <;> nofun

/-- **How the task comes to the growth prefill**: from the step loop's head, by the queue
forming the new batch, with `batch_size` the number of entries then in flight; or by a client's
close, which leaves it there. -/
theorem step_growing_cases {t t' : BatchingTask σ} {input : Input σ} {events : List (Event σ)}
    {batch : CachedBatch} {batchSize firstNewId : Nat} {newBatch : QueueBatch σ}
    (stepped : t.step cfg dec input = some (t', events))
    (growing : t'.point = .growing batch batchSize newBatch firstNewId) :
    (∃ waitingTokens tooLong, t.point = .stepping batch waitingTokens ∧
      input = .grow tooLong (some newBatch) ∧ batchSize = t.processor.entries.len ∧
      t'.processor = newBatch.enterAll t.processor) ∨
    ∃ id, input = .close id ∧ t'.point = t.point ∧ t'.processor = t.processor.close id := by
  cases input with
  | close id =>
    cases stepped
    exact .inr ⟨id, rfl, rfl, rfl⟩
  | nextBatch queued =>
    simp only [step] at stepped
    split at stepped <;> cases stepped <;> cases growing
  | grow tooLong newBatch' =>
    simp only [step] at stepped
    split at stepped
    · split_ifs at stepped
      · split at stepped
        · split at stepped <;> cases stepped <;> cases growing
          exact .inl ⟨_, _, ‹_›, rfl, rfl, rfl⟩
        · cases stepped
          cases growing
      · cases stepped
        cases growing
    · cases stepped
  | answer clock choice =>
    simp only [step] at stepped
    split at stepped
    any_goals exact absurd growing (afterCall_not_growing (Option.some.inj stepped))
    · split at stepped <;> cases stepped <;> cases growing
    · cases stepped

end BatchingTask

/-! ### The entries beside the new batch -/

/-- At the growth prefill, the map holds `batch_size` entries besides the new batch's: the ones
the iteration started with. No condition elsewhere. -/
def Point.GrowthSized (keys : List Nat) : Point σ → Prop
  | .growing _ batchSize newBatch _ => (keys.filter (· ∉ newBatch.ids)).length = batchSize
  | _ => True

namespace BatchingTask

variable {cfg : Config} {dec : Decoder σ}

/-- **At every growth prefill of every run, the map holds `batch_size` entries besides the new
batch's.** -/
theorem Run.growthSized {history : List (Event σ)} {t : BatchingTask σ}
    (run : Run cfg dec history t) : t.point.GrowthSized t.processor.entries.keys := by
  induction run with
  | start => trivial
  | @step history events t t' input run allowed stepped ih =>
    cases growing : t'.point with
    | growing batch batchSize newBatch firstNewId =>
      rcases step_growing_cases stepped growing with
        ⟨waitingTokens, tooLong, -, rfl, rfl, entered⟩ | ⟨id, -, same, closed⟩
      · have fresh : ∀ id ∈ newBatch.ids, id ∉ t.processor.entries.keys := fun id member =>
          (InFlight.get_eq_none_iff _).mp
            (run.get_unadmitted (QueueBatch.fresh_unadmitted allowed member))
        rw [Point.GrowthSized, entered, newBatch.enterAll_others _ fresh]
        rfl
      · rw [← growing, same, closed]
        exact ih
    | _ => trivial

/-- The batches stepped after a growth prefill tell whether it returned a cached batch, and
which. -/
theorem grownBatches_inj {batch : CachedBatch} {newCached newCached' : Option CachedBatch}
    (same : grownBatches batch newCached = grownBatches batch newCached') :
    newCached = newCached' := by
  have tails := List.append_cancel_left same
  cases newCached <;> cases newCached' <;> simp_all

/-- A growth prefill that returns a cached batch: the server answered it, and `wrap_future` on
the answer, from the first new id, gave the task's processor. -/
theorem step_growing_answered {t t' : BatchingTask σ} {events : List (Event σ)}
    {batch newCached : CachedBatch} {batchSize firstNewId : Nat} {newBatch : QueueBatch σ}
    {clock : Nat → Nat} {choice : BackendChoice}
    (growing : t.point = .growing batch batchSize newBatch firstNewId)
    (answered : t.step cfg dec (.answer clock choice) = some (t', events))
    (extended : t'.point = .stepCall (grownBatches batch (some newCached)) 1) :
    ∃ generated inputs errors nextBatchId,
      (t.cache.prefill newBatch (toPrune batch) choice).2 =
        .ok (some (generated, inputs, errors, nextBatchId)) ∧
      t.processor.wrapFuture dec clock (.ok (some (generated, inputs, errors, nextBatchId)))
        (some firstNewId) = some (t'.processor, some newCached) := by
  simp only [step, growing] at answered
  generalize (t.cache.prefill newBatch (toPrune batch) choice).2 = result at answered ⊢
  split at answered
  · rename_i p newCached' done
    cases answered
    obtain rfl := grownBatches_inj (Point.stepCall.inj extended).1
    rcases result with err | _ | ⟨generated, inputs, errors, nextBatchId⟩
    · cases done
    · cases done
    · exact ⟨_, _, _, _, rfl, done⟩
  · cases answered
    cases extended

/-! ### The subtraction -/

/-- **`new_batch_size - batch_size` does not underflow.** In every run, when the growth prefill
returns a cached batch, the map holds at least the `batch_size` entries it held at the head of
the iteration. -/
theorem Run.batchSize_le_newBatchSize {history : List (Event σ)} {t t' : BatchingTask σ}
    {events : List (Event σ)} {batch newCached : CachedBatch} {batchSize firstNewId : Nat}
    {newBatch : QueueBatch σ} {clock : Nat → Nat} {choice : BackendChoice}
    (run : Run cfg dec history t) (growing : t.point = .growing batch batchSize newBatch firstNewId)
    (answered : t.step cfg dec (.answer clock choice) = some (t', events))
    (extended : t'.point = .stepCall (grownBatches batch (some newCached)) 1) :
    batchSize ≤ t'.processor.entries.len := by
  obtain ⟨generated, inputs, errors, nextBatchId, prefilled, done⟩ :=
    step_growing_answered growing answered extended
  obtain ⟨tokensNew, errorsNew⟩ := Cache.prefill_names _ _ _ _ prefilled
  have sized := run.growthSized
  rw [growing, Point.GrowthSized] at sized
  rw [← sized]
  refine ((t.processor.entries.nodup.filter _).subperm fun id member => ?_).length_le
  obtain ⟨before, notNew⟩ := List.mem_filter.mp member
  have old : id ∉ newBatch.ids := of_decide_eq_true notNew
  exact TokenProcessor.wrapFuture_keeps_unnamed done (fun named => old (tokensNew id named))
    (fun named => old (errorsNew id named)) before

/-- The growth prefill of request 3 answered with a token. -/
def growthAnswered : BatchingTask Text × List (Event Text) :=
  (grown.1.step growthConfig byteDecoder (.answer (fun _ => 0) steady)).getD (initial false, [])

/-- After the warm-up only request 2 is in flight, so `batch_size` is 1; the growth prefill of
request 3 is answered, and the map holds both. -/
theorem growthAnswered_batchSize : 1 ≤ growthAnswered.1.processor.entries.len :=
  Run.batchSize_le_newBatchSize grown_run
    (rfl : grown.1.point = .growing ⟨0, some [1]⟩ 1 newRequest 3)
    (rfl : grown.1.step growthConfig byteDecoder (.answer (fun _ => 0) steady) =
      some growthAnswered)
    (rfl : growthAnswered.1.point =
      .stepCall (grownBatches ⟨0, some [1]⟩ (some ⟨1, some []⟩)) 1)

end BatchingTask

end Batching
