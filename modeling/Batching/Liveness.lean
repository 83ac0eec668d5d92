/-
**The step loop drains.**

Once the queue forms no more batches, a server that answers every request it steps with a token
drives the step loop back to the queue wait, whatever the tokens: each iteration's `next_token`
call takes a token from every request in flight, so the budgets left to them run out, and a
`next_token` call with no live request returns no batch (a failed call ends the loop at once). By
then every request has had its answer.

* `BatchingTask.serve`: the step loop driven by the server, from the loop's head: no growth, then
  the `next_token` call, answered as `server k` at the `k`-th iteration, while fuel lasts;
* `BatchingTask.step_grow_none`, `step_answer_stepCall`: the two steps of an iteration;
* `BatchingTask.BenignRun.serve_waiting`: with more fuel than the budgets left, the driven loop
  ends on the queue wait, its steps extending the run, by induction on the fuel;
* **`BatchingTask.BenignRun.drains`**: from the step loop's head at any point of a run in step with
  the server, the queue forming no batch, the loop the server drives waits on the queue again
  within as many iterations as the budgets left to the entries add up to (one more than that
  bound of fuel suffices), and every request admitted by then has had its terminal message or
  lost its receiver.
-/

import Batching.Drain
import Batching.Answered

namespace Batching

variable {σ : Type}

namespace BatchingTask

/-- The step loop driven by the server, one iteration per unit of fuel: at the loop's head the
queue forms no batch, and the `k`-th `next_token` call is answered as `server k`. The events and
where the task is when the loop leaves its head or the fuel runs out. -/
def serve (cfg : Config) (dec : Decoder σ) (clock : Nat → Nat) (server : Nat → BackendChoice) :
    Nat → Nat → BatchingTask σ → List (Event σ) × BatchingTask σ
  | 0, _, t => ([], t)
  | fuel + 1, k, t =>
    match t.point with
    | .stepping _ _ =>
      match t.step cfg dec (.grow false none) with
      | some (t₁, events₁) =>
        match t₁.step cfg dec (.answer clock (server k)) with
        | some (t₂, events₂) =>
          let rest := serve cfg dec clock server fuel (k + 1) t₂
          (events₁ ++ events₂ ++ rest.1, rest.2)
        | none => (events₁, t₁)
      | none => ([], t)
    | _ => ([], t)

variable {cfg : Config} {dec : Decoder σ}

/-- Away from the loop's head the driven loop does nothing. -/
theorem serve_idle {clock : Nat → Nat} {server : Nat → BackendChoice} {t : BatchingTask σ}
    (idle : ∀ batch w, t.point ≠ .stepping batch w) (fuel k : Nat) :
    serve cfg dec clock server fuel k t = ([], t) := by
  cases fuel with
  | zero => rfl
  | succ fuel =>
    unfold serve
    split
    · rename_i batch w stepping
      exact absurd stepping (idle batch w)
    · rfl

/-- At the loop's head, no growth takes the task to its `next_token` call. -/
theorem step_grow_none {t : BatchingTask σ} {batch : CachedBatch} {w : Nat}
    (stepping : t.point = .stepping batch w) (tooLong : Bool) :
    t.step cfg dec (.grow tooLong none) = some ({ t with point := .stepCall [batch] w }, []) := by
  simp only [step, stepping]
  split_ifs <;> rfl

/-- The `next_token` call's answer takes the task to the loop's head with the count raised by one,
back on the queue, or to a crash. -/
theorem step_answer_stepCall (cfg : Config) (dec : Decoder σ) (t : BatchingTask σ)
    {batches : List CachedBatch} {w : Nat} (stepCall : t.point = .stepCall batches w)
    (clock : Nat → Nat) (choice : BackendChoice) :
    ∃ t' events, t.step cfg dec (.answer clock choice) = some (t', events) ∧
      ((∃ batch, t'.point = .stepping batch (w + 1)) ∨ t'.point = .waiting ∨
        t'.point = .crashed) := by
  simp only [step, stepCall]
  unfold afterCall
  split
  · exact ⟨_, _, rfl, .inl ⟨_, rfl⟩⟩
  · exact ⟨_, _, rfl, .inr (.inl rfl)⟩
  · exact ⟨_, _, rfl, .inr (.inr rfl)⟩

/-- **With more fuel than the budgets left, the driven loop ends on the queue wait**, its steps
extending the run: an iteration that goes on lowers the budgets left. -/
theorem BenignRun.serve_waiting (ends : dec.EndsWithPieces) (clock : Nat → Nat)
    (server : Nat → BackendChoice) (answers : ∀ k id, ((server k).answer id).isOk = true) :
    ∀ fuel k {history : List (Event σ)} {t : BatchingTask σ} {batch : CachedBatch} {w : Nat},
      BenignRun cfg dec history t → t.point = .stepping batch w → t.processor.potential < fuel →
      (serve cfg dec clock server fuel k t).2.point = .waiting ∧
        BenignRun cfg dec (history ++ (serve cfg dec clock server fuel k t).1)
          (serve cfg dec clock server fuel k t).2
  | 0, _, _, _, _, _, _, _, enough => absurd enough (Nat.not_lt_zero _)
  | fuel + 1, k, history, t, batch, w, run, stepping, enough => by
    have grown : t.step cfg dec (.grow false none) =
        some ({ t with point := .stepCall [batch] w }, []) := step_grow_none stepping false
    have toCall : BenignRun cfg dec (history ++ []) { t with point := .stepCall [batch] w } :=
      run.step (by rfl) (by rfl) grown
    have benign : (Input.answer clock (server k)).benign
        { t with point := .stepCall [batch] w } = true := by
      simp [Input.benign, pending, answers]
    obtain ⟨t₂, events, stepped, next⟩ :=
      step_answer_stepCall cfg dec { t with point := .stepCall [batch] w } rfl clock (server k)
    have answered := toCall.step (by rfl) benign stepped
    simp only [List.append_nil] at answered
    simp only [serve, stepping, grown, stepped, List.nil_append]
    rcases next with ⟨batch', stepping'⟩ | waiting | crashed
    · have lower := (toCall.synced ends).iteration_potential toCall.run.bounded rfl benign stepped
        stepping'
      have rest := serve_waiting ends clock server answers fuel (k + 1) answered stepping'
        (by simp only at lower; omega)
      exact ⟨rest.1, by simpa only [List.append_assoc] using rest.2⟩
    · rw [serve_idle (by rw [waiting]; nofun)]
      exact ⟨waiting, by simpa using answered⟩
    · have agrees := (answered.synced ends).agrees
      rw [crashed] at agrees
      exact agrees.elim

/-- **The step loop drains.** From the loop's head in a run in step with the server, with the
queue forming no batch, the loop the server drives waits on the queue again within one more
iteration than the budgets left, and every request admitted by then has been answered. -/
theorem BenignRun.drains (ends : dec.EndsWithPieces) {history : List (Event σ)}
    {t₀ : BatchingTask σ} (run : BenignRun cfg dec history t₀) {batch : CachedBatch} {w : Nat}
    (looping : t₀.point = .stepping batch w) (clock : Nat → Nat) (server : Nat → BackendChoice)
    (answers : ∀ k id, ((server k).answer id).isOk = true) {fuel : Nat}
    (enough : t₀.processor.potential < fuel) :
    let served := serve cfg dec clock server fuel 0 t₀
    served.2.point = .waiting ∧ BenignRun cfg dec (history ++ served.1) served.2 ∧
      ∀ id e₀, admitted (history ++ served.1) id = some e₀ →
        (∃ m ∈ served.2.processor.sent id, m.ends = true) ∨ served.2.processor.closed id = true := by
  obtain ⟨waiting, benign⟩ := serve_waiting ends clock server answers fuel 0 run looping enough
  exact ⟨waiting, benign, fun id _ found =>
    (benign.processor.answeredSlot found).left (benign.vacant_when_idle ends (.inl waiting) id)⟩

/-- Requests 1 and 2, prefilled, drain under a server answering token 7 at every step. -/
theorem firstAnswered_drains :
    let served := serve growthConfig byteDecoder (fun _ => 0) (fun _ => steady) 40 0
      firstAnswered.1
    served.2.point = .waiting ∧
      BenignRun growthConfig byteDecoder ([] ++ prefilled.2 ++ firstAnswered.2 ++ served.1)
        served.2 ∧
      ∀ id e₀, admitted ([] ++ prefilled.2 ++ firstAnswered.2 ++ served.1) id = some e₀ →
        (∃ m ∈ served.2.processor.sent id, m.ends = true) ∨ served.2.processor.closed id = true :=
  have run : BenignRun growthConfig byteDecoder ([] ++ prefilled.2 ++ firstAnswered.2)
      firstAnswered.1 :=
    .step (.step (.start false) (by rfl) (by rfl)
        (rfl : (initial false).step growthConfig byteDecoder (.nextBatch (some firstBatch)) =
          some prefilled))
      (by rfl) (by rfl)
        (rfl : prefilled.1.step growthConfig byteDecoder (.answer (fun _ => 0) steady) =
          some firstAnswered)
  BenignRun.drains TokenProcessor.byteDecoder_endsWithPieces run rfl (fun _ => 0) (fun _ => steady)
    (fun _ _ => rfl) (by decide)

end BatchingTask

end Batching
