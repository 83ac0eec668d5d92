/-
**How often the step loop grows its batch.**

`batching_task` counts in `waiting_tokens` the `next_token` calls since the last prefill: it sets
it to 1 after the prefill of a queue batch (line 353) and after a growth prefill (line 398), and
adds one after each `next_token` call (line 431). `should_try_to_grow_batch` asks for more than
5 (line 444), so that the loop does not grow at every step: before each growth prefill the task
has made at least five `next_token` calls since the last prefill.

* `BackendCall`, `BatchingTask.Calls`: the backend calls the steps of the task make, in order;
* `Point.Paced`: at the step loop's head and at its `next_token` call with `waiting_tokens = w`,
  the last `w - 1` calls were `next_token` calls, and at a growth prefill the last five were;
* **`BatchingTask.Calls.growth_paced`**: over every run of the task, whatever its inputs, the five
  calls right before each growth prefill are `next_token` calls.
-/

import Batching.Loop

namespace Batching

variable {σ : Type}

/-- The backend calls `batching_task` makes. -/
inductive BackendCall
  /-- `prefill(batch, [])` of a queue batch (line 349). -/
  | prefill
  /-- `prefill(new_batch, to_prune)`, the growth prefill (line 388). -/
  | growth
  /-- `next_token(batches)` (line 426). -/
  | nextToken
  deriving DecidableEq, Repr

/-- The call the task awaits an answer to at each point. -/
def Point.call : Point σ → Option BackendCall
  | .prefilling _ => some .prefill
  | .growing .. => some .growth
  | .stepCall .. => some .nextToken
  | _ => none

/-- The call a step at `point` completes: the one the point awaits, for the server's answer. -/
def Input.call (point : Point σ) : Input σ → Option BackendCall
  | .answer _ _ => point.call
  | _ => none

/-- Only the answer at a growth prefill completes one. -/
theorem Input.call_eq_growth {point : Point σ} {input : Input σ}
    (called : input.call point = some .growth) :
    ∃ batch batchSize newBatch firstNewId, point = .growing batch batchSize newBatch firstNewId := by
  cases input with
  | answer clock choice =>
    cases point <;> cases called
    exact ⟨_, _, _, _, rfl⟩
  | _ => cases called

namespace BatchingTask

variable (cfg : Config) (dec : Decoder σ)

/-- The runs of `batching_task` on any inputs, with the backend calls they made, in order. -/
inductive Calls : BatchingTask σ → List BackendCall → Prop
  | start (health : Bool) : Calls (initial health) []
  | step {t t' : BatchingTask σ} {calls : List BackendCall} {input : Input σ}
      {events : List (Event σ)} :
      Calls t calls → t.step cfg dec input = some (t', events) →
      Calls t' (calls ++ (input.call t.point).toList)

/-- The steps on a list of inputs, with the calls they make; `none` at the first that does not
fit. -/
def runCalls : BatchingTask σ → List (Input σ) → Option (List BackendCall × BatchingTask σ)
  | t, [] => some ([], t)
  | t, input :: inputs =>
    (t.step cfg dec input).bind fun (t', _) =>
      (runCalls t' inputs).map fun (calls, t'') => ((input.call t.point).toList ++ calls, t'')

variable {cfg dec}

/-- Steps replayed from a run's end extend its calls. -/
theorem Calls.of_runCalls {t : BatchingTask σ} {calls : List BackendCall}
    (trace : Calls cfg dec t calls) :
    ∀ {inputs : List (Input σ)} {calls' : List BackendCall},
      (runCalls cfg dec t inputs).map Prod.fst = some calls' →
      ∃ t', Calls cfg dec t' (calls ++ calls')
  | [], _, ran => by
    cases ran
    exact ⟨t, by simpa using trace⟩
  | input :: inputs, _, ran => by
    cases stepped : t.step cfg dec input with
    | none => simp [runCalls, stepped] at ran
    | some next =>
      obtain ⟨t₁, events⟩ := next
      cases later : runCalls cfg dec t₁ inputs with
      | none => simp [runCalls, stepped, later] at ran
      | some rest =>
        obtain ⟨calls₁, t₂⟩ := rest
        simp only [runCalls, stepped, later, Option.some_bind, Option.map_some',
          Option.some.injEq] at ran
        subst ran
        obtain ⟨t', trace'⟩ := Calls.of_runCalls (trace.step stepped)
          (by rw [later]; rfl : (runCalls cfg dec t₁ inputs).map Prod.fst = some calls₁)
        exact ⟨t', by simpa using trace'⟩

end BatchingTask

/-- What the task's waiting count says of the calls made so far: at the step loop's head and at
its `next_token` call with `waiting_tokens = w`, the last `w - 1` calls were `next_token` calls;
at a growth prefill, the last five were. -/
def Point.Paced (calls : List BackendCall) : Point σ → Prop
  | .stepping _ w => 1 ≤ w ∧ ∃ earlier, calls = earlier ++ List.replicate (w - 1) .nextToken
  | .stepCall _ w => 1 ≤ w ∧ ∃ earlier, calls = earlier ++ List.replicate (w - 1) .nextToken
  | .growing .. => ∃ earlier, calls = earlier ++ List.replicate 5 .nextToken
  | _ => True

namespace Point.Paced

variable {cfg : Config} {dec : Decoder σ} {calls : List BackendCall} {w : Nat}

/-- A prefill restarts the count at one. -/
theorem restart (calls : List BackendCall) (c : BackendCall) :
    1 ≤ 1 ∧ ∃ earlier, calls ++ [c] = earlier ++ List.replicate (1 - 1) .nextToken :=
  ⟨le_refl 1, calls ++ [c], by simp⟩

/-- A `next_token` call raises the count by one. -/
theorem count_succ
    (counted : 1 ≤ w ∧ ∃ earlier, calls = earlier ++ List.replicate (w - 1) .nextToken) :
    1 ≤ w + 1 ∧
      ∃ earlier, calls ++ [.nextToken] = earlier ++ List.replicate (w + 1 - 1) .nextToken := by
  obtain ⟨positive, earlier, rfl⟩ := counted
  refine ⟨by omega, earlier, ?_⟩
  rw [List.append_assoc, ← List.replicate_succ', Nat.sub_add_cancel positive, Nat.add_sub_cancel]

/-- A count above five ends in five `next_token` calls. -/
theorem last_five (above : 5 < w)
    (counted : ∃ earlier, calls = earlier ++ List.replicate (w - 1) .nextToken) :
    ∃ earlier, calls = earlier ++ List.replicate 5 .nextToken := by
  obtain ⟨earlier, rfl⟩ := counted
  refine ⟨earlier ++ List.replicate (w - 1 - 5) .nextToken, ?_⟩
  rw [List.append_assoc, ← List.replicate_add, Nat.sub_add_cancel (by omega)]

/-- After a call's answer, the step loop's head holds the count it is given. -/
theorem afterCall {t : BatchingTask σ} {cache : Cache} {clock : Nat → Nat}
    {result : TokenProcessor.CallResult} {w : Nat} {calls : List BackendCall}
    (paced : 1 ≤ w ∧ ∃ earlier, calls = earlier ++ List.replicate (w - 1) .nextToken) :
    (t.afterCall dec cache clock result w).1.point.Paced calls := by
  unfold BatchingTask.afterCall
  split <;> first | exact paced | trivial

/-- **One step keeps the count**: a prefill sets it to one, a `next_token` call raises it by one,
and the growth decision asks for more than five. -/
theorem step {t t' : BatchingTask σ} {calls : List BackendCall} {input : Input σ}
    {events : List (Event σ)} (paced : t.point.Paced calls)
    (stepped : t.step cfg dec input = some (t', events)) :
    t'.point.Paced (calls ++ (input.call t.point).toList) := by
  cases input with
  | close id =>
    cases stepped
    simpa [Input.call] using paced
  | nextBatch batch =>
    simp only [BatchingTask.step] at stepped
    split at stepped <;> cases stepped <;> trivial
  | grow tooLong newBatch =>
    simp only [BatchingTask.step] at stepped
    split at stepped
    · rename_i batch w point
      rw [point] at paced
      simp only [Input.call, Option.toList, List.append_nil]
      split_ifs at stepped with growing
      · have above : 5 < w := by
          simp only [shouldTryToGrowBatch, Bool.and_eq_true, decide_eq_true_eq] at growing
          exact growing.1.1
        split at stepped
        · split at stepped <;> cases stepped
          · exact last_five above paced.2
          · trivial
        · cases stepped
          exact paced
      · cases stepped
        exact paced
    · cases stepped
  | answer clock choice =>
    simp only [BatchingTask.step] at stepped
    split at stepped
    · rename_i batch point
      obtain rfl := congrArg Prod.fst (Option.some.inj stepped).symm
      simp only [Input.call, point, Point.call, Option.toList]
      exact afterCall (restart calls .prefill)
    · rename_i batch batchSize newBatch firstNewId point
      split at stepped <;> cases stepped
      · simp only [Input.call, point, Point.call, Option.toList]
        exact restart calls .growth
      · trivial
    · rename_i batches w point
      rw [point] at paced
      obtain rfl := congrArg Prod.fst (Option.some.inj stepped).symm
      simp only [Input.call, point, Point.call, Option.toList]
      exact afterCall (count_succ paced)
    · cases stepped

end Point.Paced

namespace BatchingTask

variable {cfg : Config} {dec : Decoder σ}

/-- The waiting count says how many `next_token` calls came last, over every run. -/
theorem Calls.paced {t : BatchingTask σ} {calls : List BackendCall}
    (trace : Calls cfg dec t calls) : t.point.Paced calls := by
  induction trace with
  | start => trivial
  | step _ stepped ih => exact ih.step stepped

/-- **The loop grows at most every five steps**: over every run, the five backend calls right
before each growth prefill are `next_token` calls. -/
theorem Calls.growth_paced {t : BatchingTask σ} {calls : List BackendCall}
    (trace : Calls cfg dec t calls) :
    ∀ before after, calls = before ++ .growth :: after →
      ∃ earlier, before = earlier ++ List.replicate 5 .nextToken := by
  induction trace with
  | start => intro before after split; simp at split
  | @step t t' calls input events trace _ ih =>
    intro before after split
    cases called : input.call t.point with
    | none =>
      rw [called, Option.toList_none, List.append_nil] at split
      exact ih before after split
    | some c =>
      rw [called, Option.toList_some] at split
      rcases split_snoc split with ⟨-, rfl, rfl⟩ | ⟨after', -, split'⟩
      · have paced := trace.paced
        obtain ⟨batch, batchSize, newBatch, firstNewId, point⟩ := Input.call_eq_growth called
        rw [point] at paced
        exact paced
      · exact ih before after' split'

/-- A batch of request 1, stepped five times, then grown by request 3 for a request waiting too
long. -/
def pacedInputs : List (Input Text) :=
  [.nextBatch (some ⟨0, [(1, TokenProcessor.plainEntry)]⟩), .answer (fun _ => 0) steady,
    .grow false none, .answer (fun _ => 0) steady, .grow false none, .answer (fun _ => 0) steady,
    .grow false none, .answer (fun _ => 0) steady, .grow false none, .answer (fun _ => 0) steady,
    .grow false none, .answer (fun _ => 0) steady,
    .grow true (some newRequest), .answer (fun _ => 0) steady]

/-- Its growth prefill comes after the prefill and five `next_token` calls. -/
theorem pacedInputs_growth_paced :
    ∃ earlier, [BackendCall.prefill, .nextToken, .nextToken, .nextToken, .nextToken, .nextToken] =
      earlier ++ List.replicate 5 .nextToken :=
  let ⟨_, trace⟩ := Calls.of_runCalls (.start false)
    (by decide : (runCalls growthConfig byteDecoder (initial false) pacedInputs).map Prod.fst =
      some [.prefill, .nextToken, .nextToken, .nextToken, .nextToken, .nextToken, .growth])
  trace.growth_paced [.prefill, .nextToken, .nextToken, .nextToken, .nextToken, .nextToken] [] rfl

end BatchingTask

end Batching
