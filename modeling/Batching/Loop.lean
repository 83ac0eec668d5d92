/-
**The batching loop.**

`batching_task` owns the in-flight map. It waits for a batch from the queue, prefills it, and
then steps the cached batches with `next_token` until the server holds no request, growing them
now and then with a batch from `try_next_batch`. The queue, the server and the clients are its
environment: each step of the model is the task going from one backend call, or one wait on the
queue, to the next, with what the environment answered.

The growth path has a shortcut (lines 391-395): after the growth prefill the task clears the
completed ids of the current batch, "based on pruning that would have been done", whether the
prefill succeeded or not. A failed call changes nothing on the server, so the requests the router
saw complete stay cached there, and the next step returns a token for a request no longer in the
map.

* `BatchingTask.step`: one step of `batching_task`, with the events it makes the processor see;
* `BatchingTask.Run`: the runs from the task's start, the queue forming batches of fresh entries;
* **`Run.processor_run`**: every run of the task is a run of its token processor, so what holds
  of every processor run holds of the task;
* `Closes`: clients' closes while the task waits on a call, which change no entry;
* **`failedCall_answers`**: when a growth prefill fails, whatever closes came before its answer,
  the map is the one the iteration started with, and exactly the new batch's requests get one
  error each; when a call without a start id fails, every entry gets one error and the map
  empties;
* **`growthFailure_desynchronises`**: a run where, right before a `next_token` call, the router's
  map is not what the server holds minus what the router reported completed;
* **`growthFailure_crashes`**: the same run's next step panics on the request the server still
  holds ("ID not found"), so the step loop ends neither by the server holding nothing nor by a
  failed call.
-/

import Batching.Backend
import Batching.Runs
import Batching.Completion

namespace Batching

variable {σ : Type}

/-! ### The growth decision -/

/-- `batch_size_limit` and `max_waiting_tokens`. -/
structure Config where
  batchSizeLimit : Nat
  maxWaitingTokens : Nat

/-- `should_try_to_grow_batch`; `tooLong` is what `queue.next_entry_waiting_too_long()`
returns. -/
def shouldTryToGrowBatch (entries : InFlight (Entry σ)) (tooLong : Bool) (maxBatchSize : Nat)
    (waitingTokens maxWaitingTokens : Nat) (requestsCompleted : Bool) : Bool :=
  decide (waitingTokens > 5) && decide (entries.len < maxBatchSize) &&
    (decide (waitingTokens ≥ maxWaitingTokens) || requestsCompleted || tooLong)

/-- `some_completed`: the batch reports completions, or has no status. -/
def someCompleted (batch : CachedBatch) : Bool :=
  batch.status.all fun completed => !completed.isEmpty

/-- The batches a growth prefill asks the server to prune (lines 379-382): none when the current
batch reports no completion, the current batch otherwise. -/
def toPrune (batch : CachedBatch) : List CachedBatch :=
  match batch.status with
  | some completed => if completed.isEmpty then [] else [batch]
  | none => [batch]

/-- The batches stepped after a growth prefill (lines 391-411): the current batch with its
completed ids cleared, or dropped when it has no status, then the new cached batch if any. -/
def grownBatches (batch : CachedBatch) (newCached : Option CachedBatch) : List CachedBatch :=
  (match batch.status with
    | some _ => [{ batch with status := some [] }]
    | none => []) ++ newCached.toList

/-! ### The task -/

/-- Where `batching_task` is. -/
inductive Point (σ : Type)
  /-- Awaiting `queue.next_batch` (line 342). -/
  | waiting
  /-- About to call `prefill(batch, [])` (line 349). -/
  | prefilling (batch : QueueBatch σ)
  /-- At the head of the step loop with `cached_batch = Some(batch)` (line 356). -/
  | stepping (batch : CachedBatch) (waitingTokens : Nat)
  /-- About to call `prefill(new_batch, to_prune)` (line 388), with `batch_size` entries in
  flight at the start of the iteration. -/
  | growing (batch : CachedBatch) (batchSize : Nat) (newBatch : QueueBatch σ) (firstNewId : Nat)
  /-- About to call `next_token(batches)` (line 426). -/
  | stepCall (batches : List CachedBatch) (waitingTokens : Nat)
  /-- `queue.next_batch` returned `None`: the task returned. -/
  | finished
  /-- The task panicked. -/
  | crashed

/-- The state of `batching_task`: the token processor, the server's cache, and where the task
is. -/
structure BatchingTask (σ : Type) where
  processor : TokenProcessor σ
  cache : Cache
  point : Point σ

/-- What the environment does next. -/
inductive Input (σ : Type)
  /-- `queue.next_batch` resolves, with `none` once the queue is closed and drained. -/
  | nextBatch (batch : Option (QueueBatch σ))
  /-- `queue.next_entry_waiting_too_long()`, and what `queue.try_next_batch` returns if the task
  asks. -/
  | grow (tooLong : Bool) (batch : Option (QueueBatch σ))
  /-- The server answers the pending call; `Instant::now()` at request `id`'s token is
  `clock id`. -/
  | answer (clock : Nat → Nat) (choice : BackendChoice)
  /-- A client drops the receiving end of request `id`'s channel. -/
  | close (id : Nat)

namespace QueueBatch

variable (batch : QueueBatch σ)

/-- The queue puts the batch's entries in the in-flight map. -/
def enterAll (p : TokenProcessor σ) : TokenProcessor σ :=
  batch.requests.foldl (fun p request => p.enter request.1 request.2) p

/-- The events of the queue putting the batch's entries in the map. -/
def events : List (Event σ) := batch.requests.map fun request => .enter request.1 request.2

end QueueBatch

namespace BatchingTask

/-- The task `batching_task` starts as. -/
def initial (health : Bool) : BatchingTask σ :=
  ⟨TokenProcessor.initial health, Cache.empty, .waiting⟩

/-- The task after `wrap_future` on a call's `result`: the step loop's head with the cached
batch returned, or the queue wait when there is none, or a crash where the processor panics. -/
def afterCall (dec : Decoder σ) (t : BatchingTask σ) (cache : Cache) (clock : Nat → Nat)
    (result : TokenProcessor.CallResult) (waitingTokens : Nat) :
    BatchingTask σ × List (Event σ) :=
  match t.processor.wrapFuture dec clock result none with
  | some (p, some cached) => (⟨p, cache, .stepping cached waitingTokens⟩, [.call clock result none])
  | some (p, none) => (⟨p, cache, .waiting⟩, [.call clock result none])
  | none => ({ t with cache, point := .crashed }, [])

/-- **One step of `batching_task`** on what the environment does, with the events the token
processor sees; `none` where the input does not fit the point the task is at. -/
def step (cfg : Config) (dec : Decoder σ) (t : BatchingTask σ) :
    Input σ → Option (BatchingTask σ × List (Event σ))
  | .close id => some ({ t with processor := t.processor.close id }, [.close id])
  | .nextBatch batch =>
    match t.point, batch with
    | .waiting, none => some ({ t with point := .finished }, [])
    | .waiting, some batch =>
      some ({ t with processor := batch.enterAll t.processor, point := .prefilling batch },
        batch.events)
    | _, _ => none
  | .grow tooLong newBatch =>
    match t.point with
    | .stepping batch waitingTokens =>
      let batchSize := t.processor.entries.len
      if shouldTryToGrowBatch t.processor.entries tooLong cfg.batchSizeLimit waitingTokens
          cfg.maxWaitingTokens (someCompleted batch) then
        match newBatch with
        | some newBatch =>
          let p := newBatch.enterAll t.processor
          match newBatch.ids.head? with
          | some firstNewId =>
            some ({ t with processor := p, point := .growing batch batchSize newBatch firstNewId },
              newBatch.events)
          | none => some ({ t with processor := p, point := .crashed }, newBatch.events)
        | none => some ({ t with point := .stepCall [batch] waitingTokens }, [])
      else some ({ t with point := .stepCall [batch] waitingTokens }, [])
    | _ => none
  | .answer clock choice =>
    match t.point with
    | .prefilling batch =>
      let (cache, result) := t.cache.prefill batch [] choice
      some (t.afterCall dec cache clock result 1)
    | .growing batch _ newBatch firstNewId =>
      let (cache, result) := t.cache.prefill newBatch (toPrune batch) choice
      match t.processor.wrapFuture dec clock result (some firstNewId) with
      | some (p, newCached) =>
        some (⟨p, cache, .stepCall (grownBatches batch newCached) 1⟩,
          [.call clock result (some firstNewId)])
      | none => some ({ t with cache, point := .crashed }, [])
    | .stepCall batches waitingTokens =>
      let (cache, result) := t.cache.nextToken batches choice
      some (t.afterCall dec cache clock result (waitingTokens + 1))
    | _ => none

end BatchingTask

/-! ### Runs -/

/-- An entry as `Entry::new` builds it, as a test. -/
def Entry.fresh (e : Entry σ) : Bool :=
  e.generatedTokens == 0 && e.tokenIds.isEmpty && e.tokens.isEmpty && e.output.isNone &&
    e.batchTime.isSome

theorem Entry.fresh_iff {e : Entry σ} : e.fresh = true ↔ e.Fresh := by
  simp only [Entry.fresh, Bool.and_eq_true, beq_iff_eq, List.isEmpty_iff, Option.isNone_iff_eq_none]
  exact ⟨fun ⟨⟨⟨⟨generated, ids⟩, tokens⟩, output⟩, stamped⟩ =>
      ⟨generated, ids, tokens, output, stamped⟩,
    fun ⟨generated, ids, tokens, output, stamped⟩ =>
      ⟨⟨⟨⟨generated, ids⟩, tokens⟩, output⟩, stamped⟩⟩

/-- A batch the queue may form after `history`: not empty, of fresh entries under distinct ids
never admitted before. -/
def QueueBatch.fresh (history : List (Event σ)) (batch : QueueBatch σ) : Bool :=
  !batch.requests.isEmpty && decide batch.ids.Nodup &&
    batch.requests.all fun request => (admitted history request.1).isNone && request.2.fresh

/-- What the environment may do after `history`: the queue forms fresh batches. -/
def Input.allowed (history : List (Event σ)) : Input σ → Bool
  | .nextBatch (some batch) => batch.fresh history
  | .grow _ (some batch) => batch.fresh history
  | _ => true

namespace BatchingTask

variable (cfg : Config) (dec : Decoder σ)

/-- The runs of `batching_task`, with the events its processor saw. -/
inductive Run : List (Event σ) → BatchingTask σ → Prop
  | start (health : Bool) : Run [] (initial health)
  | step {history events : List (Event σ)} {t t' : BatchingTask σ} {input : Input σ} :
      Run history t → input.allowed history = true → t.step cfg dec input = some (t', events) →
      Run (history ++ events) t'

/-- The steps on a list of inputs, each checked allowed; `none` at the first that is not. -/
def runInputs : List (Event σ) → BatchingTask σ → List (Input σ) →
    Option (List (Event σ) × BatchingTask σ)
  | history, t, [] => some (history, t)
  | history, t, input :: inputs =>
    if input.allowed history then
      (t.step cfg dec input).bind fun (t', events) => runInputs (history ++ events) t' inputs
    else none

variable {cfg dec}

/-- Steps replayed from a run's end are a run. -/
theorem Run.of_runInputs : ∀ {inputs : List (Input σ)} {history history' : List (Event σ)}
    {t t' : BatchingTask σ}, Run cfg dec history t →
      runInputs cfg dec history t inputs = some (history', t') → Run cfg dec history' t'
  | [], _, _, _, _, run, replayed => by
    cases replayed
    exact run
  | input :: inputs, history, _, t, _, run, replayed => by
    simp only [runInputs] at replayed
    split_ifs at replayed with allowed
    obtain ⟨⟨t₁, events⟩, stepped, rest⟩ := Option.bind_eq_some.mp replayed
    exact Run.of_runInputs (.step run allowed stepped) rest

end BatchingTask

/-! ### The queue's insertions -/

@[simp] theorem TokenProcessor.enter_entries (p : TokenProcessor σ) (id : Nat) (e : Entry σ) :
    (p.enter id e).entries = p.entries.insert id e := rfl

namespace QueueBatch

/-- Entering a list of requests appends the new ids to the keys. -/
theorem foldl_enter_keys : ∀ (requests : List (Nat × Entry σ)) (p : TokenProcessor σ),
    ∃ added, (requests.foldl (fun p request => p.enter request.1 request.2) p).entries.keys =
      p.entries.keys ++ added ∧ ∀ id ∈ added, id ∈ requests.map Prod.fst
  | [], p => ⟨[], by simp, by simp⟩
  | (id, e) :: requests, p => by
    obtain ⟨added, keys, mem⟩ := foldl_enter_keys requests (p.enter id e)
    have entered : (p.enter id e).entries.keys = p.entries.keys ++
        (if id ∈ p.entries.keys then [] else [id]) := by
      rw [TokenProcessor.enter_entries, InFlight.keys_insert]
      split_ifs <;> simp
    refine ⟨(if id ∈ p.entries.keys then [] else [id]) ++ added, ?_, fun k member => ?_⟩
    · rw [List.foldl_cons, keys, entered, List.append_assoc]
    · rcases List.mem_append.mp member with new | later
      · split_ifs at new <;> simp_all
      · exact List.mem_cons_of_mem _ (mem k later)

/-- Entering requests leaves the other ids alone. -/
theorem foldl_enter_get : ∀ (requests : List (Nat × Entry σ)) (p : TokenProcessor σ) (k : Nat),
    ((requests.foldl (fun p request => p.enter request.1 request.2) p).entries.get k).isSome =
      (decide (k ∈ requests.map Prod.fst) || (p.entries.get k).isSome) ∧
    (k ∉ requests.map Prod.fst →
      (requests.foldl (fun p request => p.enter request.1 request.2) p).entries.get k =
        p.entries.get k)
  | [], p, k => by simp
  | (id, e) :: requests, p, k => by
    obtain ⟨present, absent⟩ := foldl_enter_get requests (p.enter id e) k
    rw [List.foldl_cons]
    by_cases same : k = id
    · subst same
      simp [present]
    · have other : (k == id) = false := beq_false_of_ne same
      refine ⟨by simp [present, same, other], fun notIn => ?_⟩
      rw [absent (fun member => notIn (List.mem_cons_of_mem _ member))]
      simp [same]

variable (batch : QueueBatch σ) (p : TokenProcessor σ)

theorem enterAll_keys :
    ∃ added, (batch.enterAll p).entries.keys = p.entries.keys ++ added ∧ ∀ id ∈ added, id ∈ batch.ids :=
  foldl_enter_keys batch.requests p

theorem enterAll_get_isSome (k : Nat) :
    ((batch.enterAll p).entries.get k).isSome = (decide (k ∈ batch.ids) || (p.entries.get k).isSome) :=
  (foldl_enter_get batch.requests p k).1

theorem enterAll_get_of_not_mem {k : Nat} (absent : k ∉ batch.ids) :
    (batch.enterAll p).entries.get k = p.entries.get k :=
  (foldl_enter_get batch.requests p k).2 absent

end QueueBatch

/-! ### When a call fails -/

namespace TokenProcessor

variable (p : TokenProcessor σ) (error : ClientError)

@[simp] theorem sendErrors_entries (startId : Option Nat) :
    (p.sendErrors error startId).entries = p.entries.retain (keepOnError startId) := rfl

theorem sendErrors_sent (startId : Option Nat) (k : Nat) :
    (p.sendErrors error startId).sent k =
      if (p.entries.get k).isSome ∧ keepOnError startId k = false then p.sent k ++ [.error error]
      else p.sent k := rfl

/-- **`send_errors` without a start id** empties the map and sends every entry one error. -/
theorem sendErrors_none :
    (p.sendErrors error none).entries = InFlight.empty ∧
      ∀ k, (p.sendErrors error none).sent k =
        if k ∈ p.entries.keys then p.sent k ++ [.error error] else p.sent k := by
  refine ⟨InFlight.ext (by simp [keepOnError]) (by simp [keepOnError]), fun k => ?_⟩
  simp [sendErrors_sent, keepOnError, p.entries.mem_keys]

end TokenProcessor

namespace QueueBatch

variable (batch : QueueBatch σ) (p : TokenProcessor σ) {firstNewId : Nat}

/-- **`send_errors` from the first new id undoes the queue's insertion** when the new ids are
not below it and the old ones are. -/
theorem enterAll_retain (older : ∀ id ∈ p.entries.keys, id < firstNewId)
    (newer : ∀ id ∈ batch.ids, firstNewId ≤ id) :
    (batch.enterAll p).entries.retain (TokenProcessor.keepOnError (some firstNewId)) = p.entries := by
  obtain ⟨added, keys, mem⟩ := batch.enterAll_keys p
  refine InFlight.ext ?_ fun k => ?_
  · rw [InFlight.keys_retain, keys, List.filter_append, List.filter_eq_self.mpr,
      List.filter_eq_nil_iff.mpr, List.append_nil]
    · intro id member
      simpa [TokenProcessor.keepOnError] using newer id (mem id member)
    · intro id member
      simpa [TokenProcessor.keepOnError] using older id member
  · rw [InFlight.get_retain]
    by_cases below : k < firstNewId
    · rw [if_pos (by simpa [TokenProcessor.keepOnError] using below),
        batch.enterAll_get_of_not_mem p fun member => absurd (newer k member) (by omega)]
    · rw [if_neg (by simpa [TokenProcessor.keepOnError] using below)]
      exact ((p.entries.get_eq_none_iff).mpr fun member => below (older k member)).symm

/-- After the queue's insertion, `send_errors` from the first new id sends one error to exactly
the new batch's requests. -/
theorem enterAll_sendErrors_sent (error : ClientError)
    (older : ∀ id ∈ p.entries.keys, id < firstNewId) (newer : ∀ id ∈ batch.ids, firstNewId ≤ id)
    (k : Nat) :
    ((batch.enterAll p).sendErrors error (some firstNewId)).sent k =
      if k ∈ batch.ids then (batch.enterAll p).sent k ++ [.error error]
      else (batch.enterAll p).sent k := by
  have dropped : ((batch.enterAll p).entries.get k).isSome ∧
      TokenProcessor.keepOnError (some firstNewId) k = false ↔ k ∈ batch.ids := by
    rw [enterAll_get_isSome]
    constructor
    · rintro ⟨present, notBelow⟩
      rcases Bool.or_eq_true_iff.mp present with new | old
      · exact of_decide_eq_true new
      · have below := older k (p.entries.mem_keys k |>.mpr old)
        simp [TokenProcessor.keepOnError, below] at notBelow
    · intro new
      simpa [TokenProcessor.keepOnError, new] using newer k new
  rw [TokenProcessor.sendErrors_sent]
  exact if_congr dropped rfl rfl

end QueueBatch

namespace BatchingTask

variable {cfg : Config} {dec : Decoder σ}

/-- A growth step that reaches the growth prefill has put the new batch in the map, and the
first new id is its first request's. -/
theorem step_grow_growing {t t₁ : BatchingTask σ} {batch batch' : CachedBatch}
    {waitingTokens batchSize firstNewId : Nat} {tooLong : Bool} {newBatch newBatch' : QueueBatch σ}
    {events : List (Event σ)} (stepping : t.point = .stepping batch waitingTokens)
    (grew : t.step cfg dec (.grow tooLong (some newBatch)) = some (t₁, events))
    (growing : t₁.point = .growing batch' batchSize newBatch' firstNewId) :
    t₁.processor = newBatch.enterAll t.processor ∧ newBatch' = newBatch ∧
      newBatch.ids.head? = some firstNewId := by
  simp only [step, stepping] at grew
  split_ifs at grew
  · cases first : newBatch.ids.head? with
    | none =>
      rw [first] at grew
      cases grew
      cases growing
    | some f =>
      rw [first] at grew
      cases grew
      cases growing
      exact ⟨rfl, rfl, rfl⟩
  · cases grew
    cases growing

/-- A failed growth prefill: `send_errors` from the first new id. -/
theorem step_growing_failure {t₁ t₂ : BatchingTask σ} {batch : CachedBatch}
    {batchSize firstNewId : Nat} {newBatch : QueueBatch σ} {clock : Nat → Nat}
    {choice : BackendChoice} {error : ClientError} {events : List (Event σ)}
    (growing : t₁.point = .growing batch batchSize newBatch firstNewId)
    (failed : choice.failure = some error)
    (answered : t₁.step cfg dec (.answer clock choice) = some (t₂, events)) :
    t₂.processor = { t₁.processor with generationHealth := false }.sendErrors error (some firstNewId) := by
  simp only [step, growing, Cache.prefill, failed, TokenProcessor.wrapFuture] at answered
  cases answered
  rfl

/-- A failed call without a start id: `send_errors` on every entry. -/
theorem step_call_failure {t t' : BatchingTask σ} {clock : Nat → Nat} {choice : BackendChoice}
    {error : ClientError} {events : List (Event σ)}
    (calling : (∃ batch, t.point = .prefilling batch) ∨
      ∃ batches waitingTokens, t.point = .stepCall batches waitingTokens)
    (failed : choice.failure = some error)
    (answered : t.step cfg dec (.answer clock choice) = some (t', events)) :
    t'.processor = { t.processor with generationHealth := false }.sendErrors error none := by
  rcases calling with ⟨batch, at_⟩ | ⟨batches, waitingTokens, at_⟩ <;>
    simp only [step, at_, Cache.prefill, Cache.nextToken, failed, afterCall,
      TokenProcessor.wrapFuture] at answered <;>
    cases answered <;> rfl

variable (cfg dec) in
/-- Clients' closes, one after the other, while the task waits on a call. -/
inductive Closes (t : BatchingTask σ) : BatchingTask σ → Prop
  | refl : Closes t t
  | close {t' t'' : BatchingTask σ} {id : Nat} {events : List (Event σ)} :
      Closes t t' → t'.step cfg dec (.close id) = some (t'', events) → Closes t t''

/-- Closes only mark receivers gone: the point and every other part of the processor stay. -/
theorem Closes.frame {t t' : BatchingTask σ} (closes : Closes cfg dec t t') :
    t'.point = t.point ∧ ∃ closed, t'.processor = { t.processor with closed } := by
  induction closes with
  | refl => exact ⟨rfl, t.processor.closed, rfl⟩
  | close _ stepped ih =>
    cases stepped
    obtain ⟨point, closed, processor⟩ := ih
    exact ⟨point, _, by rw [TokenProcessor.close, processor]⟩

/-- **A failed call answers exactly the requests it was for.** A failed growth prefill, whatever
closes came before its answer, leaves the map the iteration started with and errors the new batch;
a failed call without a start id errors every entry and empties the map. -/
theorem failedCall_answers :
    (∀ {t t₁ t₁' t₂ : BatchingTask σ} {batch batch' : CachedBatch}
        {waitingTokens batchSize firstNewId : Nat} {tooLong : Bool} {newBatch : QueueBatch σ}
        {clock : Nat → Nat} {choice : BackendChoice} {error : ClientError}
        {events₁ events₂ : List (Event σ)},
      t.point = .stepping batch waitingTokens →
      t.step cfg dec (.grow tooLong (some newBatch)) = some (t₁, events₁) →
      t₁.point = .growing batch' batchSize newBatch firstNewId →
      Closes cfg dec t₁ t₁' →
      (∀ id ∈ t.processor.entries.keys, id < firstNewId) →
      (∀ id ∈ newBatch.ids, firstNewId ≤ id) →
      choice.failure = some error →
      t₁'.step cfg dec (.answer clock choice) = some (t₂, events₂) →
      t₂.processor.entries = t.processor.entries ∧
        ∀ id, t₂.processor.sent id = if id ∈ newBatch.ids
          then t₁'.processor.sent id ++ [.error error] else t₁'.processor.sent id) ∧
    (∀ {t t' : BatchingTask σ} {clock : Nat → Nat} {choice : BackendChoice}
        {error : ClientError} {events : List (Event σ)},
      ((∃ batch, t.point = .prefilling batch) ∨
        ∃ batches waitingTokens, t.point = .stepCall batches waitingTokens) →
      choice.failure = some error →
      t.step cfg dec (.answer clock choice) = some (t', events) →
      t'.processor.entries = InFlight.empty ∧
        ∀ id, t'.processor.sent id = if id ∈ t.processor.entries.keys
          then t.processor.sent id ++ [.error error] else t.processor.sent id) := by
  refine ⟨fun stepping grew growing closes older newer failed answered => ?_,
    fun calling failed answered => ?_⟩
  · obtain ⟨entered, -, -⟩ := step_grow_growing stepping grew growing
    obtain ⟨point, closed, processor⟩ := closes.frame
    rw [step_growing_failure (point.trans growing) failed answered, processor, entered]
    exact ⟨QueueBatch.enterAll_retain _ _ older newer,
      QueueBatch.enterAll_sendErrors_sent _ _ _ older newer⟩
  · rw [step_call_failure calling failed answered]
    exact TokenProcessor.sendErrors_none _ _

end BatchingTask

/-! ### The task's runs are runs of the token processor -/

namespace BatchingTask

variable {cfg : Config} {dec : Decoder σ}

/-- What `wrap_future` leaves: the processor as it was after a panic, or the processor after
the call's event. -/
theorem afterCall_cases {t t' : BatchingTask σ} {cache : Cache} {clock : Nat → Nat}
    {result : TokenProcessor.CallResult} {waitingTokens : Nat} {events : List (Event σ)}
    (called : t.afterCall dec cache clock result waitingTokens = (t', events)) :
    (events = [] ∧ t'.processor = t.processor) ∨
      events = [.call clock result none] ∧
        t.processor.apply dec (.call clock result none) = some t'.processor := by
  unfold afterCall at called
  split at called <;> cases called
  · exact .inr ⟨rfl, by simp [TokenProcessor.apply, *]⟩
  · exact .inr ⟨rfl, by simp [TokenProcessor.apply, *]⟩
  · exact .inl ⟨rfl, rfl⟩

/-- **What one step of the task does to its processor**: nothing, a client's close, the queue's
admission of a batch, or the event of one call. -/
theorem step_cases {t t' : BatchingTask σ} {input : Input σ} {events : List (Event σ)}
    (stepped : t.step cfg dec input = some (t', events)) :
    (events = [] ∧ t'.processor = t.processor) ∨
      (∃ id, events = [.close id] ∧ t'.processor = t.processor.close id) ∨
      (∃ batch, (input = .nextBatch (some batch) ∨ ∃ tooLong, input = .grow tooLong (some batch)) ∧
        events = batch.events ∧ t'.processor = batch.enterAll t.processor) ∨
      ∃ clock result startId, events = [.call clock result startId] ∧
        t.processor.apply dec (.call clock result startId) = some t'.processor := by
  cases input with
  | close id =>
    cases stepped
    exact .inr (.inl ⟨id, rfl, rfl⟩)
  | nextBatch batch =>
    simp only [step] at stepped
    split at stepped <;> cases stepped
    · exact .inl ⟨rfl, rfl⟩
    · exact .inr (.inr (.inl ⟨_, .inl rfl, rfl, rfl⟩))
  | grow tooLong newBatch =>
    simp only [step] at stepped
    split at stepped
    · split_ifs at stepped
      · split at stepped
        · split at stepped <;> cases stepped <;>
            exact .inr (.inr (.inl ⟨_, .inr ⟨_, rfl⟩, rfl, rfl⟩))
        · cases stepped
          exact .inl ⟨rfl, rfl⟩
      · cases stepped
        exact .inl ⟨rfl, rfl⟩
    · cases stepped
  | answer clock choice =>
    simp only [step] at stepped
    split at stepped
    · rcases afterCall_cases (Option.some.inj stepped) with quiet | ⟨called, applied⟩
      · exact .inl quiet
      · exact .inr (.inr (.inr ⟨_, _, _, called, applied⟩))
    · split at stepped <;> cases stepped
      · exact .inr (.inr (.inr ⟨_, _, _, rfl, by simp [TokenProcessor.apply, *]⟩))
      · exact .inl ⟨rfl, rfl⟩
    · rcases afterCall_cases (Option.some.inj stepped) with quiet | ⟨called, applied⟩
      · exact .inl quiet
      · exact .inr (.inr (.inr ⟨_, _, _, called, applied⟩))
    · cases stepped

end BatchingTask

namespace QueueBatch

variable {dec : Decoder σ} {allowed : Event σ → Prop}

/-- Admitting fresh requests one after the other is a run of the token processor. -/
theorem run_foldl_enter : ∀ (requests : List (Nat × Entry σ)) {history : List (Event σ)}
    {p : TokenProcessor σ}, Run dec allowed history p → (requests.map Prod.fst).Nodup →
    (∀ request ∈ requests, (admitted history request.1).isNone = true ∧ request.2.fresh = true) →
    (∀ request ∈ requests, allowed (.enter request.1 request.2)) →
    Run dec allowed (history ++ requests.map fun request => .enter request.1 request.2)
      (requests.foldl (fun p request => p.enter request.1 request.2) p)
  | [], _, _, run, _, _, _ => by simpa using run
  | (id, e) :: requests, history, p, run, distinct, fresh, permitted => by
    obtain ⟨unseen, new⟩ := fresh _ (.head _)
    have entered : Run dec allowed (history ++ [.enter id e]) (p.enter id e) :=
      .step run ⟨Option.isNone_iff_eq_none.mp unseen, Entry.fresh_iff.mp new⟩ (permitted _ (.head _)) rfl
    have later : ∀ request ∈ requests,
        (admitted (history ++ [.enter id e]) request.1).isNone = true ∧ request.2.fresh = true := by
      intro request member
      have listed : request.1 ∈ requests.map Prod.fst := List.mem_map_of_mem Prod.fst member
      have other : request.1 ≠ id := fun same => (List.nodup_cons.mp distinct).1 (same ▸ listed)
      rw [admitted_append]
      simpa [Event.admits, other.symm] using fresh request (.tail _ member)
    simpa using run_foldl_enter requests entered (List.nodup_cons.mp distinct).2 later
      fun request member => permitted request (.tail _ member)

/-- **The queue's admission of a fresh batch** is a run of admissions. -/
theorem run_enterAll (batch : QueueBatch σ) {history : List (Event σ)} {p : TokenProcessor σ}
    (run : Run dec allowed history p) (fresh : batch.fresh history = true)
    (permitted : ∀ ev ∈ batch.events, allowed ev) :
    Run dec allowed (history ++ batch.events) (batch.enterAll p) := by
  simp only [QueueBatch.fresh, Bool.and_eq_true, decide_eq_true_eq, List.all_eq_true] at fresh
  exact run_foldl_enter batch.requests run fresh.1.2 (fun request member => by
      simpa using fresh.2 request member)
    fun request member => permitted _ (List.mem_map_of_mem _ member)

end QueueBatch

namespace BatchingTask

variable {cfg : Config} {dec : Decoder σ}

/-- The token processor of a run of `batching_task` went through the run's events. -/
theorem Run.processorRun {allowed : Event σ → Prop} {history : List (Event σ)}
    {t : BatchingTask σ} (run : Run cfg dec history t) (permitted : ∀ ev ∈ history, allowed ev) :
    Batching.Run dec allowed history t.processor := by
  induction run with
  | start health => exact .start health
  | @step history events t t' input run allowedInput stepped ih =>
    have before := ih fun ev member => permitted ev (List.mem_append_left _ member)
    have now : ∀ ev ∈ events, allowed ev := fun ev member =>
      permitted ev (List.mem_append_right _ member)
    rcases step_cases stepped with ⟨rfl, same⟩ | ⟨id, rfl, closed⟩ | ⟨batch, input, rfl, entered⟩ |
      ⟨clock, result, startId, rfl, applied⟩
    · rw [List.append_nil, same]
      exact before
    · rw [closed]
      exact .step before trivial (now _ (.head _)) rfl
    · rw [entered]
      rcases input with rfl | ⟨tooLong, rfl⟩ <;> exact batch.run_enterAll before allowedInput now
    · exact .step before trivial (now _ (.head _)) applied

/-- **Every run of `batching_task` is a run of its token processor**: the processor went
through the admissions, closes and calls the task's steps made, in order, and each was allowed
whenever every event of the run is. -/
theorem Run.processor_run {allowed : Event σ → Prop} {history : List (Event σ)}
    {t : BatchingTask σ} (run : Run cfg dec history t) (permitted : ∀ ev ∈ history, allowed ev) :
    Batching.Run dec allowed history t.processor :=
  run.processorRun permitted

end BatchingTask

/-! ### A growth prefill that fails -/

namespace BatchingTask

/-- Room for four requests; growth only after the warm-up or on a completion. -/
def growthConfig : Config := ⟨4, 20⟩

/-- The server answers token 7 to every request. -/
def steady : BackendChoice := ⟨none, fun _ => .ok 7, fun _ => [], 0⟩

/-- The server answers the end-of-sequence token to request 1. -/
def firstEnds : BackendChoice := ⟨none, fun id => if id = 1 then .ok 0 else .ok 7, fun _ => [], 0⟩

/-- The call fails. -/
def unreachable : BackendChoice := ⟨some (.connection "unreachable"), fun _ => .ok 7, fun _ => [], 0⟩

/-- The batch of request 3 that the queue forms for growth. -/
def newRequest : QueueBatch Text := ⟨1, [(3, TokenProcessor.plainEntry)]⟩

/-- Requests 1 and 2 prefilled and stepped five times; request 1 ends at the fifth step. -/
def warmUp : List (Input Text) :=
  [.nextBatch (some ⟨0, [(1, TokenProcessor.plainEntry), (2, TokenProcessor.plainEntry)]⟩),
    .answer (fun _ => 0) steady,
    .grow false none, .answer (fun _ => 0) steady,
    .grow false none, .answer (fun _ => 0) steady,
    .grow false none, .answer (fun _ => 0) steady,
    .grow false none, .answer (fun _ => 0) steady,
    .grow false none, .answer (fun _ => 0) firstEnds]

/-- The task after the warm-up: at the step loop's head, request 1 reported complete. -/
def beforeGrowth : List (Event Text) × BatchingTask Text :=
  (runInputs growthConfig byteDecoder [] (initial false) warmUp).getD ([], initial false)

/-- The task about to call the growth prefill for request 3, pruning request 1. -/
def grown : BatchingTask Text × List (Event Text) :=
  (beforeGrowth.2.step growthConfig byteDecoder (.grow false (some newRequest))).getD
    (initial false, [])

/-- The task after the growth prefill failed: about to call `next_token`. -/
def growthFailed : BatchingTask Text × List (Event Text) :=
  (grown.1.step growthConfig byteDecoder (.answer (fun _ => 0) unreachable)).getD
    (initial false, [])

/-- The `next_token` call after it fails in turn. -/
def stepFailed : BatchingTask Text × List (Event Text) :=
  (growthFailed.1.step growthConfig byteDecoder (.answer (fun _ => 0) unreachable)).getD
    (initial false, [])

/-- The queue may form the batch of request 3 after the warm-up. -/
theorem newRequest_allowed : (Input.grow false (some newRequest)).allowed beforeGrowth.1 = true :=
  rfl

theorem grown_step :
    beforeGrowth.2.step growthConfig byteDecoder (.grow false (some newRequest)) = some grown :=
  rfl

theorem growthFailed_step :
    grown.1.step growthConfig byteDecoder (.answer (fun _ => 0) unreachable) = some growthFailed :=
  rfl

/-- The run to the growth prefill of request 3. -/
theorem grown_run : Run growthConfig byteDecoder (beforeGrowth.1 ++ grown.2) grown.1 :=
  .step (.of_runInputs (.start false)
      (rfl : runInputs growthConfig byteDecoder [] (initial false) warmUp = some beforeGrowth))
    newRequest_allowed grown_step

theorem growthFailed_run : Run growthConfig byteDecoder
    (beforeGrowth.1 ++ grown.2 ++ growthFailed.2) growthFailed.1 :=
  .step grown_run (by rfl) growthFailed_step

/-- The failed-growth run is a run of the token processor. -/
theorem growthFailed_processor_run : Batching.Run byteDecoder (fun _ => True)
    (beforeGrowth.1 ++ grown.2 ++ growthFailed.2) growthFailed.1.processor :=
  Run.processor_run growthFailed_run fun _ _ => trivial

/-- The growth prefill of request 3 fails: request 3 gets one error and leaves, request 2 stays,
and request 2 is the only entry again; then the `next_token` call fails: request 2 gets one
error and the map empties. -/
theorem failedCall_answers_after_growth :
    (growthFailed.1.processor.entries = beforeGrowth.2.processor.entries ∧
      ∀ id, growthFailed.1.processor.sent id = if id ∈ newRequest.ids
        then grown.1.processor.sent id ++ [.error (.connection "unreachable")]
        else grown.1.processor.sent id) ∧
    (stepFailed.1.processor.entries = InFlight.empty ∧
      ∀ id, stepFailed.1.processor.sent id = if id ∈ growthFailed.1.processor.entries.keys
        then growthFailed.1.processor.sent id ++ [.error (.connection "unreachable")]
        else growthFailed.1.processor.sent id) :=
  ⟨(@failedCall_answers Text growthConfig byteDecoder).1 rfl grown_step rfl .refl (by decide)
      (by decide) rfl growthFailed_step,
    (@failedCall_answers Text growthConfig byteDecoder).2 (.inr ⟨_, _, rfl⟩) rfl
      (rfl : growthFailed.1.step growthConfig byteDecoder (.answer (fun _ => 0) unreachable) =
        some stepFailed)⟩

/-- **The router and the server fall out of step.** In a run, right before a `next_token` call,
the server will step request 1, which the router reported complete before the failed growth
prefill that was to prune it, and which is no longer in the router's map. -/
theorem growthFailure_desynchronises :
    ∃ history t batches waitingTokens, Run growthConfig byteDecoder history t ∧
      t.point = .stepCall batches waitingTokens ∧ 1 ∉ t.processor.entries.keys ∧
      1 ∈ batches.flatMap t.cache.live :=
  ⟨_, _, [⟨0, some []⟩], 1, growthFailed_run, rfl, by decide, by decide⟩

/-- **The step loop panics.** In the same run the `next_token` call succeeds, and the task
panics on the token the server returns for request 1 ("ID not found"). -/
theorem growthFailure_crashes :
    ∃ history t t' batches waitingTokens clock choice, Run growthConfig byteDecoder history t ∧
      t.point = .stepCall batches waitingTokens ∧ choice.failure = none ∧
      t.step growthConfig byteDecoder (.answer clock choice) = some (t', []) ∧
      t'.point = .crashed :=
  ⟨_, _, _, [⟨0, some []⟩], 1, fun _ => 0, steady, growthFailed_run, rfl, rfl, rfl, rfl⟩

end BatchingTask

end Batching
