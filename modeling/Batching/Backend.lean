/-
**The backend.**

The router talks to the model server through `prefill` and `next_token`. Their code is not in
the router's source; they are modelled from the spec's backend contract: the server caches, for
each batch id, the requests it still holds. A call first applies the status of each batch it is
passed (dropping the requests the router saw complete, or the whole batch when it has no status),
then steps the requests left, one token or one per-request error each, and caches them under the
id it returns. A failed call changes nothing.

* `Cache.applyStatus`: what the server does with a batch's status;
* `Cache.prefill`, `Cache.nextToken`: the two calls, with what the server decides in a
  `BackendChoice`;
* `Cache.respond_requestIds`: a step answers every live request exactly once;
* `Cache.prefill_names`: a prefill answers the requests of the batch it is for, and no other.
-/

import Batching.Processor

namespace Batching

variable {σ : Type}

/-- Modelled from the spec: a `Batch` the queue forms, its id, and its requests with the entries
the queue puts in the in-flight map. -/
structure QueueBatch (σ : Type) where
  id : Nat
  requests : List (Nat × Entry σ)

/-- The ids of a batch's requests. -/
def QueueBatch.ids (batch : QueueBatch σ) : List Nat := batch.requests.map Prod.fst

/-- Modelled from the spec: what the server decides in one call, whether it fails, and otherwise
a token id or a per-request error message for each live request, the prompt tokens of each new
request, and the id it caches the stepped batches under. -/
structure BackendChoice where
  failure : Option ClientError
  answer : Nat → Except String Nat
  prompt : Nat → List Token
  mergedId : Nat

/-- Modelled from the spec: the server's cache, the requests each cached batch still holds. -/
structure Cache where
  held : Nat → Option (List Nat)

namespace Cache

/-- Modelled from the spec: nothing cached. -/
def empty : Cache := ⟨fun _ => none⟩

/-- Modelled from the spec: cache `requests` under `batchId`, or drop the batch. -/
def update (c : Cache) (batchId : Nat) (requests : Option (List Nat)) : Cache :=
  ⟨fun k => if k = batchId then requests else c.held k⟩

@[simp] theorem held_update (c : Cache) (batchId k : Nat) (requests : Option (List Nat)) :
    (c.update batchId requests).held k = if k = batchId then requests else c.held k := rfl

/-- Modelled from the spec: what the server does with a batch's status, dropping the requests
the router saw complete, or the whole batch when it has no status. -/
def applyStatus (c : Cache) (batch : CachedBatch) : Cache :=
  match batch.status with
  | some completed => c.update batch.batchId ((c.held batch.batchId).map (·.filter (· ∉ completed)))
  | none => c.update batch.batchId none

/-- Modelled from the spec: what the server will step of a batch, the requests it holds that the
router has not reported complete, none when the batch has no status. -/
def live (c : Cache) (batch : CachedBatch) : List Nat :=
  ((c.applyStatus batch).held batch.batchId).getD []

/-- Modelled from the spec: one step of the live requests, a token for each that the server
answers with a token id, a per-request error for the others. -/
def respond (choice : BackendChoice) (live : List Nat) : List Token × List GenerateError :=
  (live.filterMap fun id => match choice.answer id with
      | .ok tokenId => some ⟨id, tokenId⟩
      | .error _ => none,
    live.filterMap fun id => match choice.answer id with
      | .ok _ => none
      | .error message => some ⟨id, message⟩)

/-- Modelled from the spec: `prefill(batch, to_prune)`, the statuses of `to_prune` applied, the
new batch stepped and cached under its id, with the prompt tokens of its requests. -/
def prefill (c : Cache) (batch : QueueBatch σ) (toPrune : List CachedBatch)
    (choice : BackendChoice) : Cache × TokenProcessor.CallResult :=
  match choice.failure with
  | some err => (c, .error err)
  | none =>
    let c := toPrune.foldl applyStatus c
    let (tokens, errors) := respond choice batch.ids
    (c.update batch.id (some batch.ids),
      .ok (some (tokens, batch.ids.map fun id => ⟨id, choice.prompt id⟩, errors, batch.id)))

/-- Modelled from the spec: `next_token(batches)`, the statuses applied, the batches' live
requests stepped together and cached under the id the server picks; `None` when no request is
live. -/
def nextToken (c : Cache) (batches : List CachedBatch) (choice : BackendChoice) :
    Cache × TokenProcessor.CallResult :=
  match choice.failure with
  | some err => (c, .error err)
  | none =>
    let c := batches.foldl applyStatus c
    let live := batches.flatMap fun batch => (c.held batch.batchId).getD []
    let c := batches.foldl (fun c batch => c.update batch.batchId none) c
    if live = [] then (c, .ok none)
    else
      let (tokens, errors) := respond choice live
      (c.update choice.mergedId (some live), .ok (some (tokens, [], errors, choice.mergedId)))

/-- **A step answers every live request once**: its tokens name the live requests the server
answers with a token id, its errors the others, each in the order of the live requests. -/
theorem respond_requestIds (choice : BackendChoice) (live : List Nat) :
    (respond choice live).1.map (·.requestId) = live.filter (fun id => (choice.answer id).isOk) ∧
      (respond choice live).2.map (·.requestId) =
        live.filter (fun id => !(choice.answer id).isOk) := by
  induction live with
  | nil => exact ⟨rfl, rfl⟩
  | cons id live ih =>
    simp only [respond, List.filterMap_cons, List.filter_cons] at ih ⊢
    cases answered : choice.answer id <;> simp [answered, Except.isOk, Except.toBool, ih.1, ih.2]

/-- **The prefill of a batch answers its requests only**: every token and every per-request
error it returns is for a request of the batch. -/
theorem prefill_names (c : Cache) (batch : QueueBatch σ) (toPrune : List CachedBatch)
    (choice : BackendChoice) {generated : List Token} {inputs : List InputTokens}
    {errors : List GenerateError} {nextBatchId : Nat}
    (answered : (c.prefill batch toPrune choice).2 =
      .ok (some (generated, inputs, errors, nextBatchId))) :
    (∀ id ∈ generated.map Token.requestId, id ∈ batch.ids) ∧
      ∀ id ∈ errors.map GenerateError.requestId, id ∈ batch.ids := by
  unfold prefill at answered
  cases failed : choice.failure with
  | some err => simp [failed] at answered
  | none =>
    simp only [failed, Except.ok.injEq, Option.some.injEq, Prod.mk.injEq] at answered
    obtain ⟨rfl, -, rfl, -⟩ := answered
    obtain ⟨tokens, errs⟩ := respond_requestIds choice batch.ids
    rw [tokens, errs]
    exact ⟨fun _ member => List.mem_of_mem_filter member,
      fun _ member => List.mem_of_mem_filter member⟩

section Statuses

variable (c : Cache)

@[simp] theorem held_applyStatus (batch : CachedBatch) (k : Nat) :
    (c.applyStatus batch).held k = if k = batch.batchId then
      batch.status.bind fun completed => (c.held batch.batchId).map (·.filter (· ∉ completed))
    else c.held k := by
  unfold applyStatus
  cases batch.status <;> simp

theorem live_eq (batch : CachedBatch) :
    c.live batch = (batch.status.bind fun completed =>
      (c.held batch.batchId).map (·.filter (· ∉ completed))).getD [] := by
  simp [live]

/-- A batch the server just cached: what it steps next is what the status leaves of it. -/
theorem live_update_self (batchId : Nat) (requests : List Nat) (status : Option (List Nat)) :
    (c.update batchId (some requests)).live ⟨batchId, status⟩ =
      (status.map fun completed => requests.filter (· ∉ completed)).getD [] := by
  cases status <;> simp [live_eq]

/-- The statuses of other batches leave a batch alone. -/
theorem held_foldl_applyStatus_of_not_mem {batches : List CachedBatch} {k : Nat}
    (absent : k ∉ batches.map CachedBatch.batchId) :
    (batches.foldl applyStatus c).held k = c.held k := by
  induction batches generalizing c with
  | nil => rfl
  | cons batch batches ih =>
    simp only [List.map_cons, List.mem_cons, not_or] at absent
    rw [List.foldl_cons, ih _ absent.2, held_applyStatus, if_neg absent.1]

/-- Over batches of distinct ids, each batch gets its own status. -/
theorem held_foldl_applyStatus {batches : List CachedBatch}
    (distinct : (batches.map CachedBatch.batchId).Nodup) {batch : CachedBatch}
    (member : batch ∈ batches) :
    (batches.foldl applyStatus c).held batch.batchId =
      (c.applyStatus batch).held batch.batchId := by
  induction batches generalizing c with
  | nil => cases member
  | cons first batches ih =>
    rw [List.map_cons, List.nodup_cons] at distinct
    rw [List.foldl_cons]
    rcases List.mem_cons.mp member with rfl | later
    · exact held_foldl_applyStatus_of_not_mem _ distinct.1
    · have other : batch.batchId ≠ first.batchId := fun same =>
        distinct.1 (same ▸ List.mem_map_of_mem _ later)
      rw [ih _ distinct.2 later]
      simp [other]

/-- A step where the server answers every live request with a token: one token each, in order,
and no per-request error. -/
theorem respond_of_ok {choice : BackendChoice} {live : List Nat}
    (ok : ∀ id ∈ live, (choice.answer id).isOk = true) :
    (respond choice live).1.map (·.requestId) = live ∧ (respond choice live).2 = [] := by
  obtain ⟨tokens, errors⟩ := respond_requestIds choice live
  exact ⟨tokens.trans (List.filter_eq_self.mpr ok), List.map_eq_nil_iff.mp
    (errors.trans (List.filter_eq_nil_iff.mpr fun id member => by simp [ok id member]))⟩

end Statuses

end Cache

end Batching
