/-
**Where the errors a client receives come from.**

The batching loop puts an error on a request's channel in three places: `send_errors` passes a
failed call's error to every request of its batch (lines 516-526), `process_next_tokens` passes
the server's error for a request on, with the number of tokens generated before it (lines
688-703), and a failure of the incremental decoder, on a token or when the terminal response
flushes it, ends the request (lines 612-631 and 640-650).

* `ErrorOrigin`: these sources, over the events of a run and the tokens returned for the request;
* `Slot.Errors`, with a lemma per slot step: every error on a slot's channel has an origin, and
  the slot is left empty;
* **`run_errorOrigins`**: after every run, every error on a request's channel comes from a failed
  call made while the request was in flight, at or after the call's start id; from the server's
  error for the request, counting exactly the tokens returned for it; or from the decoder failing
  on the request's last token or at its flush, fed the tokens returned for it. And the request has
  left the in-flight map.
-/

import Batching.Caller

namespace Batching

variable {σ : Type} {dec : Decoder σ}

/-- Where an error on the channel of request `id` comes from, in a run of the events `history`
that `allowed` admits and that returned the tokens `returned` for the request. -/
inductive ErrorOrigin (dec : Decoder σ) (allowed : Event σ → Prop) (history : List (Event σ))
    (id : Nat) (returned : List Token) : ClientError → Prop
  /-- `send_errors` after a failed call, made when the events before it had left the request in
  the map, with the request at or after the call's start id. -/
  | failedCall {before after : List (Event σ)} {p : TokenProcessor σ} {clock : Nat → Nat}
      {err : ClientError} {startId : Option Nat} :
      history = before ++ .call clock (.error err) startId :: after → Run dec allowed before p →
      (p.entries.get id).isSome → (∀ sid, startId = some sid → sid ≤ id) →
      ErrorOrigin dec allowed history id returned err
  /-- The server's error for the request, counting the tokens returned for it. -/
  | generateError {clock : Nat → Nat} {generated : List Token} {inputs : List InputTokens}
      {errors : List GenerateError} {nextBatchId : Nat} {startId : Option Nat}
      {error : GenerateError} {count : UInt32} :
      .call clock (.ok (some (generated, inputs, errors, nextBatchId))) startId ∈ history →
      error ∈ errors → error.requestId = id → count.toNat = returned.length →
      ErrorOrigin dec allowed history id returned (.generation (errorMessage count error.message))
  /-- The incremental decoder, fed the earlier tokens, failed on the request's last token. -/
  | detokenizeToken {tokenIds : List Nat} {tokenId : Nat} {err : InferError} :
      returned.map Token.tokenId = tokenIds ++ [tokenId] →
      (dec.next (dec.feed tokenIds) tokenId).2 = .error err →
      ErrorOrigin dec allowed history id returned (.generation err.toString)
  /-- Flushing the incremental decoder, fed every token, failed at the terminal response. -/
  | detokenizeFlush {err : InferError} :
      (dec.flush (dec.feed (returned.map Token.tokenId))).2 = .error err →
      ErrorOrigin dec allowed history id returned (.generation err.toString)

/-- A decoding error comes from the entry's decoder. -/
theorem Entry.decode_eq_error {e : Entry σ} {tokenId : Nat} {err : InferError}
    (failed : e.decode dec tokenId = .error err) :
    ∃ d, e.output = some d ∧ (dec.next d tokenId).2 = .error err := by
  unfold Entry.decode at failed
  cases output : e.output with
  | none => rw [output] at failed; cases failed
  | some d =>
    simp only [output] at failed
    rcases next : dec.next d tokenId with ⟨d', failure | piece⟩ <;> rw [next] at failed <;>
      cases failed
    exact ⟨d, rfl, by rw [next]⟩

/-- An error as terminal response comes from flushing the entry's decoder. -/
theorem Entry.finalResponse_error {now : Nat} {e : Entry σ} {output : Token} {text : Option Text}
    {reason : StopReason} {err : ClientError}
    (answered : e.finalResponse dec now output text reason = some (.error err)) :
    ∃ d failure, e.output = some d ∧ (dec.flush d).2 = .error failure ∧
      err = .generation failure.toString := by
  have ok : ∀ {e : Entry σ} {text}, e.terminal dec now output text reason ≠ some (.error err) :=
    fun answered => by obtain ⟨_, impossible, -⟩ := Entry.terminal_shape answered; cases impossible
  unfold Entry.finalResponse at answered
  rcases text with _ | t
  · exact absurd answered ok
  cases present : e.output with
  | none => rw [present] at answered; cases answered
  | some d =>
    simp only [present] at answered
    rcases flushed : dec.flush d with ⟨d', failure | rest⟩ <;> rw [flushed] at answered
    · cases answered
      exact ⟨d, failure, rfl, by rw [flushed], rfl⟩
    · exact absurd answered ok

/-! ### The errors on a slot's channel -/

/-- What the errors on a slot's channel are, in a run of the events `history` that returned the
tokens `returned` for the request `id`: each leaves the slot empty, and each has an origin. -/
structure Slot.Errors (dec : Decoder σ) (allowed : Event σ → Prop) (history : List (Event σ))
    (id : Nat) (returned : List Token) (s : Slot σ) : Prop where
  vacant : ∀ err, .error err ∈ s.sent → s.entry = none
  origin : ∀ err, .error err ∈ s.sent → ErrorOrigin dec allowed history id returned err

namespace Slot.Errors

variable {allowed : Event σ → Prop} {history : List (Event σ)} {id : Nat} {returned : List Token}
  {s s' : Slot σ}

/-- A slot with an entry has had no error. -/
theorem quiet (errors : s.Errors dec allowed history id returned) {e : Entry σ}
    (present : s.entry = some e) (err : ClientError) : .error err ∉ s.sent :=
  fun member => by cases present.symm.trans (errors.vacant err member)

/-- A slot whose channel had no error. -/
theorem of_quiet (quiet : ∀ err, .error err ∉ s.sent) : s.Errors dec allowed history id returned :=
  ⟨fun err member => absurd member (quiet err), fun err member => absurd member (quiet err)⟩

theorem onInput (errors : s.Errors dec allowed history id returned) {tokens : List Token}
    (done : s.onInput tokens = some s') : s'.Errors dec allowed history id returned := by
  obtain ⟨e, present, -, ⟨-, rfl⟩ | ⟨-, rfl⟩⟩ := onInput_eq_some done <;>
    refine of_quiet fun err member => ?_
  · rcases List.mem_append.mp member with old | new
    · exact errors.quiet present err old
    · simp at new
  · exact errors.quiet present err member

/-- **The errors one generated token can cause**: its decoder failing on it, or at the flush of
the terminal response. -/
theorem onToken {e₀ : Entry σ} (slot : s.Texts dec e₀ returned)
    (errors : s.Errors dec allowed history id returned) {now : Nat} {output : Token}
    (done : s.onToken dec now output = some s') :
    s'.Errors dec allowed history id (returned ++ [output]) := by
  obtain ⟨e, outcome, present, stepped, rfl⟩ := onToken_eq_some done
  obtain ⟨request, -, room, counted⟩ := slot.accumulates.entry e present
  have params : e.params = e₀.params := by rw [Entry.params, request]
  have old := errors.quiet present
  cases outcome with
  | keep e' sent =>
    obtain ⟨_, -, -, answered⟩ := Entry.onToken_keep stepped
    refine of_quiet fun err member => ?_
    rcases List.mem_append.mp member with before | new
    · exact old err before
    · rcases answered with ⟨-, -, rfl⟩ | ⟨-, -, rfl⟩ <;> simp at new
  | remove sent =>
    refine ⟨fun _ _ => rfl, fun err member => ?_⟩
    have new : .error err ∈ sent := (List.mem_append.mp member).resolve_left (old err)
    rcases Entry.onToken_remove stepped with ⟨failure, failed, rfl⟩ |
      ⟨e', text, decoded, ⟨reason, r, -, -, final, rfl⟩ | ⟨-, -, ⟨-, rfl⟩ | ⟨-, -, rfl⟩⟩⟩
    · cases List.mem_singleton.mp new
      obtain ⟨d, found, next⟩ := Entry.decode_eq_error failed
      by_cases plain : e₀.params.stopSeqs = []
      · rw [Entry.record_eq] at found
        simp [params, plain, slot.plain plain e present] at found
      · rw [counted.record_output (params ▸ plain), Option.some_inj] at found
        subst found
        exact .detokenizeToken (by simp) next
    · cases List.mem_singleton.mp new
      obtain ⟨d, failure, found, flushed, rfl⟩ := Entry.finalResponse_error final
      by_cases plain : e₀.params.stopSeqs = []
      · rw [(Entry.decode_record_plain (params ▸ plain) (slot.plain plain e present) decoded).1]
          at found
        cases found
      · have params' : e'.params = e₀.params := by
          rw [Entry.params, (Entry.decode_record decoded).1, request]
        have feed := (counted.decode_record room decoded).decoder (params' ▸ plain) (by simp)
        rw [feed, Option.some_inj] at found
        subst found
        exact .detokenizeFlush flushed
    · simp at new
    · simp at new

/-- The server's error for the request ends it, counting the tokens returned for it. -/
theorem onError {e₀ : Entry σ} (accumulates : s.Accumulates dec e₀ returned)
    (errors : s.Errors dec allowed history id returned) {clock : Nat → Nat} {generated : List Token}
    {inputs : List InputTokens} {errs : List GenerateError} {nextBatchId : Nat}
    {startId : Option Nat}
    (called : .call clock (.ok (some (generated, inputs, errs, nextBatchId))) startId ∈ history)
    {error : GenerateError} (named : error ∈ errs) (ided : error.requestId = id)
    (done : s.onError error.message = some s') : s'.Errors dec allowed history id returned := by
  obtain ⟨e, present, rfl⟩ := onError_eq_some done
  refine ⟨fun _ _ => rfl, fun err member => ?_⟩
  rcases List.mem_append.mp member with old | new
  · exact absurd old (errors.quiet present err)
  · cases List.mem_singleton.mp new
    exact .generateError called named ided (accumulates.entry e present).2.2.2.count

/-- A failed call ends the request with its error when the request was in flight at the call and
the call's start id does not keep it. -/
theorem onFailure (errors : s.Errors dec allowed history id returned) {before after : List (Event σ)}
    {p : TokenProcessor σ} {clock : Nat → Nat} {err : ClientError} {startId : Option Nat}
    (split : history = before ++ .call clock (.error err) startId :: after)
    (run : Run dec allowed before p) (inFlight : s.entry.isSome → (p.entries.get id).isSome) :
    (s.onFailure err (TokenProcessor.keepOnError startId id)).Errors dec allowed history id
      returned := by
  unfold Slot.onFailure
  split
  · rename_i failing
    refine ⟨fun _ _ => rfl, fun err' member => ?_⟩
    rcases List.mem_append.mp member with old | new
    · exact errors.origin err' old
    · cases List.mem_singleton.mp new
      refine .failedCall split run (inFlight failing.1) fun sid started => ?_
      simpa [started, TokenProcessor.keepOnError] using failing.2
  · exact errors

/-- **A call keeps the origin of every error on a slot's channel**, the call among the events,
for the slot of a processor the events before the call reach. -/
theorem onCall {e₀ : Entry σ} {p : TokenProcessor σ} {clock : Nat → Nat}
    {result : TokenProcessor.CallResult} {startId : Option Nat} (run : Run dec allowed history p)
    (slot : (p.slot id).Texts dec e₀ returned)
    (errors : (p.slot id).Errors dec allowed (history ++ [.call clock result startId]) id returned)
    (done : (p.slot id).onCall dec clock result startId id = some s') :
    s'.Errors dec allowed (history ++ [.call clock result startId]) id
      (returned ++ (Event.call (σ := σ) clock result startId).returned id) :=
  (Slot.onCall_induction
    (P := fun returned s => s.Texts dec e₀ returned ∧
      s.Errors dec allowed (history ++ [.call clock result startId]) id returned ∧
      (s.entry.isSome → (p.entries.get id).isSome))
    (fun _ _ _ _ held done => ⟨held.1.onInput done, held.2.1.onInput done, fun _ => held.2.2 (by
      obtain ⟨e, present, -⟩ := onInput_eq_some done
      simp [present])⟩)
    (fun _ _ _ _ _ _ held done => ⟨held.1.onToken done, held.2.1.onToken held.1 done,
      fun _ => held.2.2 (by
        obtain ⟨e, -, present, -⟩ := onToken_eq_some done
        simp [present])⟩)
    (fun generated inputs errs nextBatchId result _ _ _ _ named ided held done =>
      ⟨held.1.onError done, held.2.1.onError held.1.accumulates
        (show .call clock (.ok (some (generated, inputs, errs, nextBatchId))) startId ∈ _ by
          simp [result]) named ided done, fun _ => held.2.2 (by
        obtain ⟨e, present, -⟩ := onError_eq_some done
        simp [present])⟩)
    (fun err _ s₁ result held => ⟨held.1.onFailure _ _,
      held.2.1.onFailure (show history ++ [.call clock _ startId] =
        history ++ .call clock (.error err) startId :: [] by rw [result]) run held.2.2,
      fun stays => held.2.2 (by
        unfold Slot.onFailure at stays
        split at stays
        · simp at stays
        · exact stays)⟩)
    returned ⟨slot, errors, by simp⟩ done).2.1

end Slot.Errors

end Batching
