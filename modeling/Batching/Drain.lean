/-
**The step loop ends.**

Once the queue forms no more batches, `batching_task`'s step loop goes round only as long as the
server returns a batch, and in step with the server that batch holds every request in flight.
Every iteration's `next_token` call then gives every entry one token, and an entry leaves the map
once its count reaches `max(max_new_tokens, min_new_tokens)` at the latest: the budgets left to
the entries fall with each iteration.

* `Entry.remaining`: the budget left to an entry, and `Entry.Bounded`: the count within it, which
  every run keeps (`Run.bounded`);
* `TokenProcessor.wrapFuture_potential_le`, `wrapFuture_potential_lt`: no call raises the sum of
  the budgets left in flight, and a call that returns a token for a request in flight lowers it;
* **`BenignRun.iterations_le`**: from any point of a run in step with the server, while the queue
  forms no batch, the step loop goes round at most as many times as that sum.
-/

import Batching.Sync
import Mathlib.Algebra.Order.BigOperators.Group.List
import Mathlib.Algebra.Order.Ring.Nat

namespace Batching

variable {σ : Type}

/-! ### The budget left to an entry -/

/-- The tokens an entry may still take before a stopping criterion removes it, plus one:
`max(max_new_tokens, min_new_tokens) + 1 - generated_tokens`. -/
def Entry.remaining (e : Entry σ) : Nat :=
  max e.params.maxNewTokens.toNat e.params.minNewTokens.toNat + 1 - e.generatedTokens.toNat

/-- An entry within its budget, whose count can still take one more token without wrapping. -/
structure Entry.Bounded (e : Entry σ) : Prop where
  le : e.generatedTokens.toNat ≤ max e.params.maxNewTokens.toNat e.params.minNewTokens.toNat
  room : e.generatedTokens.toNat + 1 < UInt32.size

namespace Entry

variable {dec : Decoder σ}

theorem Bounded.remaining_pos {e : Entry σ} (bounded : e.Bounded) : 0 < e.remaining := by
  have := bounded.le
  unfold remaining
  omega

theorem Fresh.bounded {e : Entry σ} (fresh : e.Fresh) : e.Bounded :=
  ⟨by rw [fresh.generatedTokens]; exact Nat.zero_le _, by rw [fresh.generatedTokens]; decide⟩

/-- **An entry that stays took one token of its budget**, and is still within it. -/
theorem onToken_keep_remaining {now : Nat} {closed : Bool} {e e' : Entry σ} {output : Token}
    {sent : List Reply} (bounded : e.Bounded)
    (kept : e.onToken dec now closed output = some (.keep e' sent)) :
    e'.Bounded ∧ e'.remaining + 1 = e.remaining := by
  have counted : e'.generatedTokens.toNat = e.generatedTokens.toNat + 1 := by
    rw [onToken_keep_generatedTokens kept, uint32_toNat_add_one bounded.room]
  have params : e'.params = e.params := by
    simp only [Entry.params, (onToken_keep_frame kept).1]
  have below := onToken_keep_lt kept
  simp only [uint32_lt_iff_toNat_lt] at below
  have le := bounded.le
  refine ⟨⟨?_, onToken_keep_room kept⟩, ?_⟩ <;> simp only [remaining, params, counted] <;> omega

end Entry

/-! ### What a call does to the budgets -/

/-- Every entry the slot holds is within its budget. -/
def Slot.Bounded (s : Slot σ) : Prop := ∀ e, s.entry = some e → e.Bounded

namespace Slot

variable {dec : Decoder σ} {clock : Nat → Nat} {result : TokenProcessor.CallResult}
  {startId : Option Nat} {id : Nat} {s s' : Slot σ}

/-- **A call takes one unit of budget for each token it returns for the slot**: an entry that
stays after the call is within its budget, with what it had left before less the tokens. -/
theorem onCall_remaining (budget : Nat)
    (holds : ∀ e, s.entry = some e → e.Bounded ∧ e.remaining ≤ budget)
    (done : onCall dec clock result startId id s = some s') :
    ∀ e, s'.entry = some e → e.Bounded ∧
      e.remaining + ((Event.call (σ := σ) clock result startId).returned id).length ≤ budget := by
  simpa using onCall_preserves
    (P := fun returned s =>
      ∀ e, s.entry = some e → e.Bounded ∧ e.remaining + returned.length ≤ budget)
    (fun _ _ s s' holds done => by
      obtain ⟨e, present, -, ⟨-, rfl⟩ | ⟨-, rfl⟩⟩ := onInput_eq_some done
      · exact holds
      · rintro _ ⟨⟩
        obtain ⟨⟨le, room⟩, budgetLeft⟩ := holds e present
        exact ⟨⟨le, room⟩, budgetLeft⟩)
    (fun returned now output s s' _ holds done => by
      obtain ⟨e, outcome, present, stepped, rfl⟩ := onToken_eq_some done
      cases outcome with
      | keep e' sent =>
        rintro _ ⟨⟩
        obtain ⟨bounded, budgetLeft⟩ := holds e present
        obtain ⟨bounded', took⟩ := Entry.onToken_keep_remaining bounded stepped
        refine ⟨bounded', ?_⟩
        simp only [List.length_append, List.length_singleton]
        omega
      | remove sent => rintro _ ⟨⟩)
    (fun _ message s s' _ done => by
      rintro _ found
      rw [onError_entry done] at found
      cases found)
    (fun _ error keep s holds => by
      unfold onFailure
      split
      · rintro _ ⟨⟩
      · exact holds)
    [] (by simpa using holds) done

theorem onCall_bounded (holds : s.Bounded) (done : onCall dec clock result startId id s = some s') :
    s'.Bounded := by
  cases present : s.entry with
  | none =>
    rw [(onCall_vacant present done).1]
    exact holds
  | some e =>
    intro e' stays
    refine (onCall_remaining e.remaining (fun e₁ found => ?_) done e' stays).1
    cases present.symm.trans found
    exact ⟨holds e present, le_rfl⟩

end Slot

/-- Summing over part of a list of distinct elements gives less. -/
theorem sum_map_le_of_subset {xs ys : List Nat} (distinct : xs.Nodup) (subset : xs ⊆ ys)
    (f : Nat → Nat) : (xs.map f).sum ≤ (ys.map f).sum := by
  obtain ⟨zs, perm, sub⟩ := List.subperm_of_subset distinct subset
  calc (xs.map f).sum = (zs.map f).sum := ((perm.map f).sum_eq).symm
    _ ≤ (ys.map f).sum := (sub.map f).sum_le_sum fun _ _ => Nat.zero_le _

namespace TokenProcessor

variable {dec : Decoder σ} {clock : Nat → Nat} {result : CallResult} {startId : Option Nat}
  {p q : TokenProcessor σ} {batch : Option CachedBatch}

/-- The budget left to request `id`'s entry; none without an entry. -/
def remainingOf (p : TokenProcessor σ) (id : Nat) : Nat :=
  ((p.entries.get id).map Entry.remaining).getD 0

/-- The budgets left to every entry in flight. -/
def potential (p : TokenProcessor σ) : Nat := (p.entries.keys.map p.remainingOf).sum

/-- A call puts no request in the map. -/
theorem wrapFuture_mem_keys (done : p.wrapFuture dec clock result startId = some (q, batch))
    {id : Nat} (after : id ∈ q.entries.keys) : id ∈ p.entries.keys := by
  by_contra before
  have vacant : (p.slot id).entry = none := (p.entries.get_eq_none_iff).mpr before
  have same := congrArg Slot.entry (Slot.onCall_vacant vacant (wrapFuture_slot done id)).1
  simp only [slot_entry] at same
  exact before (by rw [p.entries.mem_keys, ← same, ← q.entries.mem_keys]; exact after)

/-- **A call never raises the budget left to a request, and lowers it when it returns a token
for it.** -/
theorem wrapFuture_remainingOf (bounded : ∀ id, (p.slot id).Bounded)
    (done : p.wrapFuture dec clock result startId = some (q, batch)) (id : Nat) :
    q.remainingOf id ≤ p.remainingOf id ∧
      ((Event.call (σ := σ) clock result startId).returned id ≠ [] → id ∈ p.entries.keys →
        q.remainingOf id < p.remainingOf id) := by
  have call := wrapFuture_slot done id
  cases present : p.entries.get id with
  | none =>
    have same := congrArg Slot.entry (Slot.onCall_vacant present call).1
    simp only [slot_entry] at same
    refine ⟨le_of_eq (by rw [remainingOf, remainingOf, same]), fun _ known => ?_⟩
    exact absurd present ((p.entries.get_eq_none_iff).not.mpr (not_not.mpr known))
  | some e =>
    have left := Slot.onCall_remaining e.remaining (fun e₁ found => by
      cases present.symm.trans found
      exact ⟨bounded id e present, le_rfl⟩) call
    simp only [slot_entry] at left
    have positive := (bounded id e present).remaining_pos
    cases stays : q.entries.get id with
    | none => simp [remainingOf, present, stays, positive]
    | some e' =>
      have took := (left e' stays).2
      simp only [remainingOf, present, stays, Option.map_some', Option.getD_some]
      refine ⟨by omega, fun returned _ => ?_⟩
      have := List.length_pos.mpr returned
      omega

theorem wrapFuture_potential_le (bounded : ∀ id, (p.slot id).Bounded)
    (done : p.wrapFuture dec clock result startId = some (q, batch)) :
    q.potential ≤ p.potential :=
  calc q.potential ≤ (p.entries.keys.map q.remainingOf).sum :=
        sum_map_le_of_subset q.entries.nodup (fun _ => wrapFuture_mem_keys done) _
    _ ≤ p.potential := List.sum_le_sum fun id _ => (wrapFuture_remainingOf bounded done id).1

/-- **A call that returns a token for a request in flight lowers the potential.** -/
theorem wrapFuture_potential_lt (bounded : ∀ id, (p.slot id).Bounded)
    (done : p.wrapFuture dec clock result startId = some (q, batch))
    (named : ∃ id ∈ p.entries.keys, (Event.call (σ := σ) clock result startId).returned id ≠ []) :
    q.potential < p.potential := by
  obtain ⟨id, known, returned⟩ := named
  calc q.potential ≤ (p.entries.keys.map q.remainingOf).sum :=
        sum_map_le_of_subset q.entries.nodup (fun _ => wrapFuture_mem_keys done) _
    _ < p.potential := List.sum_lt_sum _ _ (fun id _ => (wrapFuture_remainingOf bounded done id).1)
        ⟨id, known, (wrapFuture_remainingOf bounded done id).2 returned known⟩

end TokenProcessor

/-! ### The step loop's budget -/

/-- The queue forms no batch. -/
def Input.quiet : Input σ → Bool
  | .nextBatch (some _) => false
  | .grow _ (some _) => false
  | _ => true

theorem Input.allowed_of_quiet {input : Input σ} (quiet : input.quiet = true)
    (history : List (Event σ)) : input.allowed history = true := by
  rcases input with (_ | _) | ⟨_, _ | _⟩ | _ | _ <;> simp_all [Input.quiet, Input.allowed]

/-- One when a `next_token` call hands the step loop a batch to go on with: one more iteration of
the loop. -/
def Point.iteration : Point σ → Point σ → Nat
  | .stepCall _ _, .stepping _ _ => 1
  | _, _ => 0

namespace BatchingTask

variable {cfg : Config} {dec : Decoder σ} {t t' : BatchingTask σ} {input : Input σ}
  {events : List (Event σ)}

/-- Every entry of the task's map is within its budget. -/
def Bounded (t : BatchingTask σ) : Prop := ∀ id, (t.processor.slot id).Bounded

/-- A step keeps every entry within its budget when the queue forms fresh batches. -/
theorem Bounded.step (bounded : t.Bounded)
    (entering : ∀ batch,
      (input = .nextBatch (some batch) ∨ ∃ tooLong, input = .grow tooLong (some batch)) →
        ∀ request ∈ batch.requests, request.2.Fresh)
    (stepped : t.step cfg dec input = some (t', events)) : t'.Bounded := by
  rcases step_cases stepped with ⟨-, same⟩ | ⟨id, -, closed⟩ | ⟨batch, entered, -, same⟩ |
    ⟨clock, result, startId, -, applied⟩
  · rw [Bounded, same]
    exact bounded
  · rw [Bounded, closed]
    exact bounded
  · intro id e present
    rw [TokenProcessor.slot_entry, same] at present
    rcases QueueBatch.enterAll_get_eq_some present with member | earlier
    · exact (entering batch entered _ member).bounded
    · exact bounded id e earlier
  · obtain ⟨⟨q, batch⟩, done, same⟩ := Option.map_eq_some'.mp applied
    rw [Bounded, ← same]
    exact fun id => Slot.onCall_bounded (bounded id) (TokenProcessor.wrapFuture_slot done id)

/-- **Every run keeps every entry within its budget.** -/
theorem Run.bounded {history : List (Event σ)} (run : Run cfg dec history t) : t.Bounded := by
  induction run with
  | start => exact fun _ _ present => by cases present
  | step _ allowed stepped ih =>
    refine ih.step (fun batch entered => ?_) stepped
    rcases entered with rfl | ⟨_, rfl⟩ <;> exact (QueueBatch.fresh_spec allowed).2.2

/-- **An iteration of the step loop lowers the potential**: in step with the server, the
`next_token` call that hands the loop a batch returned a token for every request in flight, and
there was one. -/
theorem Synced.iteration_potential (synced : t.Synced) (bounded : t.Bounded)
    {batches : List CachedBatch} {waitingTokens : Nat}
    (stepCall : t.point = .stepCall batches waitingTokens) (benign : input.benign t = true)
    (stepped : t.step cfg dec input = some (t', events)) {batch : CachedBatch}
    {waitingTokens' : Nat} (stepping : t'.point = .stepping batch waitingTokens') :
    t'.processor.potential < t.processor.potential := by
  obtain ⟨agrees, -⟩ := synced
  rw [stepCall] at agrees
  obtain ⟨idsDistinct, -, keys⟩ := agrees
  cases input with
  | close id =>
    cases stepped
    rw [stepCall] at stepping
    cases stepping
  | nextBatch _ => simp [BatchingTask.step, stepCall] at stepped
  | grow _ _ => simp [BatchingTask.step, stepCall] at stepped
  | answer clock choice =>
    simp only [Input.benign, pending, stepCall, Bool.and_true, List.all_eq_true] at benign
    simp only [BatchingTask.step, stepCall, Option.some.injEq] at stepped
    cases failed : choice.failure with
    | some error =>
      simp only [Cache.nextToken, failed] at stepped
      rw [show t' = _ from (congrArg Prod.fst stepped).symm] at stepping
      simp [afterCall, TokenProcessor.wrapFuture] at stepping
    | none =>
      simp only [Cache.nextToken, failed, Cache.nextToken_live idsDistinct] at stepped
      split_ifs at stepped with empty
      · rw [show t' = _ from (congrArg Prod.fst stepped).symm] at stepping
        simp [afterCall, TokenProcessor.wrapFuture] at stepping
      · obtain ⟨tokens, -⟩ := Cache.respond_of_ok benign
        obtain ⟨id, member⟩ := List.exists_mem_of_ne_nil _ empty
        unfold afterCall at stepped
        split at stepped
        · rename_i q cached done
          cases stepped
          refine TokenProcessor.wrapFuture_potential_lt bounded done ⟨id, (keys id).mpr member, ?_⟩
          rw [← tokens] at member
          obtain ⟨token, named, rfl⟩ := List.mem_map.mp member
          simp only [Event.returned, ne_eq, List.filter_eq_nil_iff, not_forall, not_not]
          exact ⟨token, named, beq_self_eq_true _⟩
        · cases stepped
          cases stepping
        · cases stepped
          cases stepping

/-- **One quiet step**: no step raises the potential, and an iteration of the step loop lowers
it. -/
theorem Synced.potential_step (synced : t.Synced) (bounded : t.Bounded) (quiet : input.quiet = true)
    (benign : input.benign t = true) (stepped : t.step cfg dec input = some (t', events)) :
    t.point.iteration t'.point + t'.processor.potential ≤ t.processor.potential := by
  have le : t'.processor.potential ≤ t.processor.potential := by
    rcases step_cases stepped with ⟨-, same⟩ | ⟨id, -, closed⟩ | ⟨batch, entered, -, -⟩ |
      ⟨clock, result, startId, -, applied⟩
    · rw [same]
    · rw [closed]
      rfl
    · rcases entered with rfl | ⟨_, rfl⟩ <;> cases quiet
    · obtain ⟨⟨q, batch⟩, done, same⟩ := Option.map_eq_some'.mp applied
      rw [← same]
      exact TokenProcessor.wrapFuture_potential_le bounded done
  unfold Point.iteration
  split
  · rename_i batches waitingTokens batch waitingTokens' stepCall stepping
    have := synced.iteration_potential bounded stepCall benign stepped stepping
    omega
  · omega

variable (cfg dec) in
/-- The step loop's runs from `t₀` while the queue forms no batch, in an environment that keeps
the task in step with the server, with the number of iterations made. -/
inductive LoopRun (t₀ : BatchingTask σ) : BatchingTask σ → Nat → Prop
  | start : LoopRun t₀ t₀ 0
  | step {t t' : BatchingTask σ} {input : Input σ} {events : List (Event σ)} {n : Nat} :
      LoopRun t₀ t n → input.quiet = true → input.benign t = true →
      t.step cfg dec input = some (t', events) → LoopRun t₀ t' (n + t.point.iteration t'.point)

/-- The step loop's runs from a point of a run in step with the server stay in step with it and
within budget, and each iteration lowers the sum of the budgets left. -/
theorem LoopRun.invariant {history : List (Event σ)} {t₀ : BatchingTask σ}
    (ends : dec.EndsWithPieces) (run : BenignRun cfg dec history t₀) {n : Nat}
    (loop : LoopRun cfg dec t₀ t n) :
    t.Synced ∧ t.Bounded ∧ n + t.processor.potential ≤ t₀.processor.potential := by
  induction loop with
  | start => exact ⟨run.synced ends, run.run.bounded, by omega⟩
  | step _ quiet benign stepped ih =>
    obtain ⟨synced, bounded, before⟩ := ih
    have lowered := synced.potential_step bounded quiet benign stepped
    refine ⟨synced.step ends (Input.allowed_of_quiet quiet []) benign stepped,
      bounded.step (fun batch entered => ?_) stepped, by omega⟩
    rcases entered with rfl | ⟨_, rfl⟩ <;> cases quiet

/-- **The step loop ends.** From any point of a run in step with the server, once the queue forms
no more batches, the step loop goes round at most as many times as the budgets left add up to. -/
theorem BenignRun.iterations_le {history : List (Event σ)} {t₀ : BatchingTask σ}
    (ends : dec.EndsWithPieces) (run : BenignRun cfg dec history t₀) {n : Nat}
    (loop : LoopRun cfg dec t₀ t n) : n + t.processor.potential ≤ t₀.processor.potential :=
  (loop.invariant ends run).2.2

/-- Requests 1 and 2 after their first `next_token` call: the loop goes round once more. -/
def secondStep : BatchingTask Text × List (Event Text) :=
  (firstCall.1.step growthConfig byteDecoder (.answer (fun _ => 0) steady)).getD
    (initial false, [])

/-- The loop's first iteration takes one token from each of the two budgets of 16. -/
theorem secondStep_iterations :
    0 + firstCall.1.point.iteration secondStep.1.point + secondStep.1.processor.potential ≤
      firstCall.1.processor.potential :=
  BenignRun.iterations_le TokenProcessor.byteDecoder_endsWithPieces firstCall_run
    (.step .start (by rfl) (by rfl)
      (rfl : firstCall.1.step growthConfig byteDecoder (.answer (fun _ => 0) steady) =
        some secondStep))

end BatchingTask

end Batching
