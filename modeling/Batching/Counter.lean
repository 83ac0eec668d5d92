/-
**The waiting-token counter fits its width.**

`batching_task` keeps `waiting_tokens` in a `u32` (it is passed as one to
`should_try_to_grow_batch`): it is set to 1 after each prefill (lines 352 and 399) and raised by
`waiting_tokens += 1` after every `next_token` call (line 430), and nothing else bounds it. The
model counts it in `Nat`. In step with the server, every `next_token` call gives every request in
flight a token, so no request in flight has had fewer tokens than the counter, and a request's
count stays below `u32::MAX` while it is in flight (`Entry.Bounded`): the counter is bounded by
the counts it paces.

* `Slot.onCall_generated`, `TokenProcessor.wrapFuture_generated`: an entry that stays after a
  call was there before, with at least one more token for each token the call returned for it;
* `Point.Counted`: at the step loop's head and before `next_token`, every entry has had at least
  `waiting_tokens` tokens; before a growth prefill, every entry outside the new batch has had one;
* `Counted.step`: one step in step with the server keeps it, with one lemma per call site;
* **`BenignRun.waitingTokens_fit`**: in every run in step with the server, right before each
  `next_token` call the counter fits in a `u32`, no request in flight has had fewer tokens, and
  with a request in flight the increment fits too.
-/

import Batching.Drain

namespace Batching

variable {σ : Type}

/-! ### What a call does to the token counts -/

namespace Slot

variable {dec : Decoder σ} {clock : Nat → Nat} {result : TokenProcessor.CallResult}
  {startId : Option Nat} {id : Nat} {s s' : Slot σ}

/-- **A call gives an entry one token for each token it returns for it**: an entry that stays
after the call was the slot's entry before, with the call's tokens added to its count. -/
theorem onCall_generated (bounded : s.Bounded) (done : onCall dec clock result startId id s = some s') :
    ∀ e', s'.entry = some e' → ∃ e, s.entry = some e ∧
      e.generatedTokens.toNat + ((Event.call (σ := σ) clock result startId).returned id).length ≤
        e'.generatedTokens.toNat := by
  have kept := onCall_preserves
    (P := fun returned s₁ => ∀ e', s₁.entry = some e' → e'.Bounded ∧
      ∃ e, s.entry = some e ∧ e.generatedTokens.toNat + returned.length ≤ e'.generatedTokens.toNat)
    (fun _ _ _ _ holds done => by
      obtain ⟨e, present, -, ⟨-, rfl⟩ | ⟨-, rfl⟩⟩ := onInput_eq_some done
      · exact holds
      · rintro _ ⟨⟩
        obtain ⟨⟨le, room⟩, earlier⟩ := holds e present
        exact ⟨⟨le, room⟩, earlier⟩)
    (fun returned _ _ _ _ _ holds done => by
      obtain ⟨e, outcome, present, stepped, rfl⟩ := onToken_eq_some done
      cases outcome with
      | keep e' sent =>
        rintro _ ⟨⟩
        obtain ⟨bounded, e₀, initial, counted⟩ := holds e present
        refine ⟨(Entry.onToken_keep_remaining bounded stepped).1, e₀, initial, ?_⟩
        rw [Entry.onToken_keep_generatedTokens stepped, uint32_toNat_add_one bounded.room,
          List.length_append, List.length_singleton]
        omega
      | remove sent => rintro _ ⟨⟩)
    (fun _ _ _ _ _ done => by
      rintro _ found
      rw [onError_entry done] at found
      cases found)
    (fun _ _ _ _ holds => by
      unfold onFailure
      split
      · rintro _ ⟨⟩
      · exact holds)
    [] (fun e present => ⟨bounded e present, e, present, by simp⟩) done
  exact fun e' present => by simpa using (kept e' present).2

end Slot

namespace TokenProcessor

variable {dec : Decoder σ} {clock : Nat → Nat} {result : CallResult} {startId : Option Nat}
  {p q : TokenProcessor σ} {batch : Option CachedBatch}

theorem wrapFuture_generated (bounded : ∀ id, (p.slot id).Bounded)
    (done : p.wrapFuture dec clock result startId = some (q, batch)) {id : Nat} {e' : Entry σ}
    (stays : q.entries.get id = some e') :
    ∃ e, p.entries.get id = some e ∧
      e.generatedTokens.toNat + ((Event.call (σ := σ) clock result startId).returned id).length ≤
        e'.generatedTokens.toNat := by
  simpa using Slot.onCall_generated (bounded id) (wrapFuture_slot done id) e' (by simpa using stays)

end TokenProcessor

/-- A step where the server answers every live request with a token returns one for each. -/
theorem Cache.respond_returns {choice : BackendChoice} {live : List Nat}
    (ok : ∀ id ∈ live, (choice.answer id).isOk = true) {id : Nat} (member : id ∈ live) :
    0 < ((Cache.respond choice live).1.filter (·.requestId == id)).length := by
  rw [← (Cache.respond_of_ok ok).1] at member
  obtain ⟨token, named, rfl⟩ := List.mem_map.mp member
  exact List.length_pos_of_mem (List.mem_filter.mpr ⟨named, beq_self_eq_true _⟩)

/-! ### The counter's invariant -/

/-- What `waiting_tokens` bounds at each point of the loop: where the task holds it, it fits in a
`u32` and every entry in flight has had at least that many tokens; before a growth prefill, every
entry outside the new batch has had a token. -/
def Point.Counted (entries : InFlight (Entry σ)) : Point σ → Prop
  | .stepping _ waitingTokens | .stepCall _ waitingTokens => waitingTokens < UInt32.size ∧
      ∀ id e, entries.get id = some e → waitingTokens ≤ e.generatedTokens.toNat
  | .growing _ _ newBatch _ =>
      ∀ id e, entries.get id = some e → id ∉ newBatch.ids → 1 ≤ e.generatedTokens.toNat
  | _ => True

namespace BatchingTask

variable {cfg : Config} {dec : Decoder σ} {t t' : BatchingTask σ} {events : List (Event σ)}

/-- The counter's invariant at the task's point. -/
def Counted (t : BatchingTask σ) : Prop := t.point.Counted t.processor.entries

/-- **Where `wrap_future` hands the step loop a batch**, every entry in flight has had at least
the counter's tokens, when each had that many less the call's tokens for it before. -/
theorem afterCall_counted (bounded : t.Bounded) {cache : Cache} {clock : Nat → Nat}
    {result : TokenProcessor.CallResult} {waitingTokens : Nat} (fits : waitingTokens < UInt32.size)
    (atLeast : ∀ id e, t.processor.entries.get id = some e → waitingTokens ≤
      e.generatedTokens.toNat + ((Event.call (σ := σ) clock result none).returned id).length) :
    (t.afterCall dec cache clock result waitingTokens).1.Counted := by
  unfold afterCall
  split
  · rename_i q cached done
    refine ⟨fits, fun id e' stays => ?_⟩
    obtain ⟨e, present, more⟩ := TokenProcessor.wrapFuture_generated bounded done stays
    have := atLeast id e present
    omega
  · trivial
  · trivial

theorem Counted.grow (counted : t.Counted) {tooLong : Bool} {newBatch : Option (QueueBatch σ)}
    (stepped : t.step cfg dec (.grow tooLong newBatch) = some (t', events)) : t'.Counted := by
  simp only [step] at stepped
  split at stepped
  · rename_i batch waitingTokens stepping
    have current : t.point.Counted t.processor.entries := counted
    rw [stepping] at current
    split_ifs at stepped with growing
    · have above : 5 < waitingTokens := by
        simp only [shouldTryToGrowBatch, Bool.and_eq_true, decide_eq_true_eq] at growing
        exact growing.1.1
      split at stepped
      · split at stepped <;> cases stepped
        · intro id e present outside
          rcases QueueBatch.enterAll_get_eq_some present with member | earlier
          · exact absurd (List.mem_map_of_mem Prod.fst member) outside
          · have := current.2 id e earlier
            omega
        · trivial
      · cases stepped
        exact current
    · cases stepped
      exact current
  · cases stepped

theorem Counted.answer_prefilling (synced : t.Synced) (bounded : t.Bounded)
    {batch : QueueBatch σ} (prefilling : t.point = .prefilling batch) {clock : Nat → Nat}
    {choice : BackendChoice} (benign : (Input.answer clock choice).benign t = true)
    (stepped : t.step cfg dec (.answer clock choice) = some (t', events)) : t'.Counted := by
  have keys := synced.agrees
  rw [prefilling] at keys
  simp only [Input.benign, pending, prefilling, Bool.and_true, List.all_eq_true] at benign
  simp only [step, prefilling, Option.some.injEq] at stepped
  rw [show t' = _ from (congrArg Prod.fst stepped).symm]
  cases failed : choice.failure with
  | some error =>
    simp only [Cache.prefill, failed]
    trivial
  | none =>
    simp only [Cache.prefill, failed, List.foldl_nil]
    refine afterCall_counted bounded (by decide) fun id e present => ?_
    have member := (keys.2.1 id).mp ((t.processor.entries.mem_keys id).mpr (by simp [present]))
    have := Cache.respond_returns benign member
    simp only [Event.returned]
    omega

theorem Counted.answer_stepCall (synced : t.Synced) (bounded : t.Bounded) (counted : t.Counted)
    {batches : List CachedBatch} {waitingTokens : Nat}
    (stepCall : t.point = .stepCall batches waitingTokens) {clock : Nat → Nat}
    {choice : BackendChoice} (benign : (Input.answer clock choice).benign t = true)
    (stepped : t.step cfg dec (.answer clock choice) = some (t', events)) : t'.Counted := by
  have agrees := synced.agrees
  rw [stepCall] at agrees
  obtain ⟨idsDistinct, -, keys⟩ := agrees
  have current : t.point.Counted t.processor.entries := counted
  rw [stepCall] at current
  simp only [Input.benign, pending, stepCall, Bool.and_true, List.all_eq_true] at benign
  simp only [step, stepCall, Option.some.injEq] at stepped
  rw [show t' = _ from (congrArg Prod.fst stepped).symm]
  cases failed : choice.failure with
  | some error =>
    simp only [Cache.nextToken, failed]
    trivial
  | none =>
    simp only [Cache.nextToken, failed, Cache.nextToken_live idsDistinct]
    split_ifs with empty
    · trivial
    · have served : ∀ id e, t.processor.entries.get id = some e → id ∈ t.cache.served batches :=
        fun id e present => (keys id).mp ((t.processor.entries.mem_keys id).mpr (by simp [present]))
      obtain ⟨id, member⟩ := List.exists_mem_of_ne_nil _ empty
      obtain ⟨e, present⟩ := Option.isSome_iff_exists.mp
        ((t.processor.entries.mem_keys id).mp ((keys id).mpr member))
      have room := (bounded id e (by simpa using present)).room
      have least := current.2 id e present
      refine afterCall_counted bounded (by omega) fun id e present => ?_
      have := Cache.respond_returns benign (served id e present)
      have := current.2 id e present
      simp only [Event.returned]
      omega

theorem Counted.answer_growing (synced : t.Synced) (bounded : t.Bounded) (counted : t.Counted)
    {batch : CachedBatch} {batchSize firstNewId : Nat} {newBatch : QueueBatch σ}
    (growing : t.point = .growing batch batchSize newBatch firstNewId) {clock : Nat → Nat}
    {choice : BackendChoice} (benign : (Input.answer clock choice).benign t = true)
    (stepped : t.step cfg dec (.answer clock choice) = some (t', events)) : t'.Counted := by
  have agrees := synced.agrees
  rw [growing] at agrees
  obtain ⟨-, -, -, -, newer, -⟩ := agrees
  have current : t.point.Counted t.processor.entries := counted
  rw [growing] at current
  cases failed : choice.failure with
  | some error =>
    have after := step_growing_failure growing failed stepped
    simp only [step, growing, Cache.prefill, failed, TokenProcessor.wrapFuture] at stepped
    cases stepped
    refine ⟨by decide, fun id e stays => ?_⟩
    rw [after, TokenProcessor.sendErrors_entries, InFlight.get_retain] at stays
    split_ifs at stays with kept
    simp only [TokenProcessor.keepOnError, decide_eq_true_eq] at kept
    exact current id e stays fun member => absurd (newer id member) (by omega)
  | none =>
    simp only [Input.benign, pending, growing, Bool.and_eq_true, List.all_eq_true] at benign
    simp only [step, growing, Cache.prefill, failed] at stepped
    split at stepped
    · rename_i q newCached done
      cases stepped
      refine ⟨by decide, fun id e' stays => ?_⟩
      obtain ⟨e, present, more⟩ := TokenProcessor.wrapFuture_generated bounded done stays
      simp only [Event.returned] at more
      by_cases member : id ∈ newBatch.ids
      · have := Cache.respond_returns benign.1 member
        omega
      · have := current id e present member
        omega
    · cases stepped
      trivial

/-- **One step in step with the server keeps the counter's invariant.** -/
theorem Counted.step (synced : t.Synced) (bounded : t.Bounded) (counted : t.Counted)
    {input : Input σ} (benign : input.benign t = true)
    (stepped : t.step cfg dec input = some (t', events)) : t'.Counted := by
  cases input with
  | close id =>
    cases stepped
    exact counted
  | nextBatch batch =>
    simp only [BatchingTask.step] at stepped
    split at stepped <;> cases stepped <;> trivial
  | grow tooLong newBatch => exact counted.grow stepped
  | answer clock choice =>
    cases point : t.point with
    | prefilling batch => exact Counted.answer_prefilling synced bounded point benign stepped
    | growing batch batchSize newBatch firstNewId =>
      exact counted.answer_growing synced bounded point benign stepped
    | stepCall batches waitingTokens =>
      exact counted.answer_stepCall synced bounded point benign stepped
    | _ => simp [BatchingTask.step, point] at stepped

/-- Every run in step with the server keeps the counter's invariant. -/
theorem BenignRun.counted {history : List (Event σ)} (ends : dec.EndsWithPieces)
    (run : BenignRun cfg dec history t) : t.Counted := by
  induction run with
  | start health => trivial
  | step earlier _ benign stepped ih =>
    exact ih.step (earlier.synced ends) earlier.run.bounded benign stepped

/-- **`waiting_tokens += 1` does not wrap while a request is in flight**: in every run in step
with the server, right before each `next_token` call, the counter fits in a `u32` and no request
in flight has had fewer tokens. -/
theorem BenignRun.waitingTokens_fit {history : List (Event σ)} (ends : dec.EndsWithPieces)
    (run : BenignRun cfg dec history t) {batches : List CachedBatch} {waitingTokens : Nat}
    (calling : t.point = .stepCall batches waitingTokens) :
    waitingTokens < UInt32.size ∧
      (∀ id e, t.processor.entries.get id = some e → waitingTokens ≤ e.generatedTokens.toNat) ∧
      (t.processor.entries.keys ≠ [] → waitingTokens + 1 < UInt32.size) := by
  have counted : t.point.Counted t.processor.entries := run.counted ends
  rw [calling] at counted
  obtain ⟨fits, atLeast⟩ := counted
  refine ⟨fits, atLeast, fun nonempty => ?_⟩
  obtain ⟨id, known⟩ := List.exists_mem_of_ne_nil _ nonempty
  obtain ⟨e, present⟩ := Option.isSome_iff_exists.mp ((t.processor.entries.mem_keys id).mp known)
  have room := (run.run.bounded id e (by simpa using present)).room
  have := atLeast id e present
  omega

/-- Before the first `next_token` call on requests 1 and 2, the counter is 1 and fits. -/
theorem firstCall_waitingTokens :
    1 < UInt32.size ∧
      (∀ id e, firstCall.1.processor.entries.get id = some e → 1 ≤ e.generatedTokens.toNat) ∧
      (firstCall.1.processor.entries.keys ≠ [] → 1 + 1 < UInt32.size) :=
  BenignRun.waitingTokens_fit TokenProcessor.byteDecoder_endsWithPieces firstCall_run
    (rfl : firstCall.1.point = .stepCall [⟨0, some []⟩] 1)

end BatchingTask

end Batching
