/-
**What one generated token can do to its entry.**

`Entry.onToken` is the body of the outputs loop of `process_next_tokens`. Its outcomes are said
once here, so that no later proof unfolds it:

* `Entry.record_eq`, `Entry.decode_eq_ok`: the counting, the kept token, the decoder step;
* `Entry.onToken_keep`, `Entry.onToken_remove`: an entry stays only when no criterion stopped it
  and its receiver was not seen gone; it leaves after a decoding error, a terminal response, or a
  dropped receiver;
* `Entry.finalResponse_shape`: a terminal response is an error, or carries the stop reason and
  the count, and for a unary entry its token ids and token records;
* `Entry.onToken_isSome`: with non-empty stop sequences, a stamped batch time and a decoder whose
  text ends with what it returns, the token is processed without a panic.
-/

import Batching.Processor

namespace Batching

variable {σ : Type} {dec : Decoder σ}

/-- The decoder's text ends with every piece `next` returns. -/
def Decoder.EndsWithPieces (dec : Decoder σ) : Prop :=
  ∀ d t d' piece, dec.next d t = (d', .ok piece) → piece <:+ dec.output d'

namespace Entry

theorem record_eq (dec : Decoder σ) (e : Entry σ) (output : Token) :
    e.record dec output =
      { e with
        generatedTokens := e.generatedTokens + 1
        output := if e.generatedTokens = 0 ∧ e.params.stopSeqs ≠ [] then some dec.start
          else e.output
        tokenIds := if e.channel = .unary then e.tokenIds ++ [output.tokenId] else e.tokenIds
        tokens := if e.channel = .unary ∧ e.params.includeGenTokens then e.tokens ++ [output]
          else e.tokens } := by
  unfold record
  cases channel : e.channel <;> split_ifs <;> simp_all [Entry.params]

@[simp] theorem record_request (e : Entry σ) (output : Token) :
    (e.record dec output).request = e.request := by
  rw [record_eq]

@[simp] theorem record_params (e : Entry σ) (output : Token) :
    (e.record dec output).params = e.params := by
  rw [record_eq]

@[simp] theorem record_channel (e : Entry σ) (output : Token) :
    (e.record dec output).channel = e.channel := by
  rw [record_eq]

@[simp] theorem record_batchTime (e : Entry σ) (output : Token) :
    (e.record dec output).batchTime = e.batchTime := by
  rw [record_eq]

@[simp] theorem record_generatedTokens (e : Entry σ) (output : Token) :
    (e.record dec output).generatedTokens = e.generatedTokens + 1 := by
  rw [record_eq]

/-- What `decode` can return: the entry itself when it has no decoder, or the entry with its
decoder advanced and the piece that decoder step returned. -/
theorem decode_eq_ok {e e' : Entry σ} {tokenId : Nat} {text : Option Text}
    (decoded : e.decode dec tokenId = .ok (e', text)) :
    (e.output = none ∧ text = none ∧ e' = e) ∨
      ∃ d d' piece, e.output = some d ∧ dec.next d tokenId = (d', .ok piece) ∧
        text = some piece ∧ e' = { e with output := some d' } := by
  unfold decode at decoded
  cases output : e.output with
  | none =>
    simp only [output, Except.ok.injEq, Prod.mk.injEq] at decoded
    exact .inl ⟨rfl, decoded.2.symm, decoded.1.symm⟩
  | some d =>
    simp only [output] at decoded
    rcases next : dec.next d tokenId with ⟨d', err | piece⟩ <;> rw [next] at decoded
    · cases decoded
    · simp only [Except.ok.injEq, Prod.mk.injEq] at decoded
      exact .inr ⟨d, d', piece, rfl, next, decoded.2.symm, decoded.1.symm⟩

/-- Decoding changes only the entry's decoder. -/
theorem decode_frame {e e' : Entry σ} {tokenId : Nat} {text : Option Text}
    (decoded : e.decode dec tokenId = .ok (e', text)) : e' = { e with output := e'.output } := by
  rcases decode_eq_ok decoded with ⟨-, -, rfl⟩ | ⟨-, -, -, -, -, -, rfl⟩ <;> rfl

/-- Recording and decoding a token counts it, and keeps the request and the channel. -/
theorem decode_record {e e' : Entry σ} {output : Token} {text : Option Text}
    (decoded : (e.record dec output).decode dec output.tokenId = .ok (e', text)) :
    e'.request = e.request ∧ e'.channel = e.channel ∧
      e'.generatedTokens = e.generatedTokens + 1 := by
  rw [decode_frame decoded]
  exact ⟨record_request e output, record_channel e output, record_generatedTokens e output⟩

/-- **An entry stays** only when its decoder, if any, took the token, no stopping criterion
held, and its receiver was not seen gone: a stream after an in-progress message, a unary entry
silently. -/
theorem onToken_keep {now : Nat} {closed : Bool} {e e' : Entry σ} {output : Token}
    {sent : List Reply} (kept : e.onToken dec now closed output = some (.keep e' sent)) :
    ∃ text, (e.record dec output).decode dec output.tokenId = .ok (e', text) ∧
      checkStoppingCriteria dec now e' output.tokenId text = some .notFinished ∧
      (e'.channel = .stream ∧ closed = false ∧
          sent = [.ok (InferResponse.streamInprog output e'.generatedTokens text)] ∨
        e'.channel = .unary ∧ ¬(e'.generatedTokens % 16 = 0 ∧ closed = true) ∧ sent = []) := by
  unfold onToken at kept
  split at kept
  · cases kept
  · rename_i e₁ text decoded
    obtain ⟨reason, check, rest⟩ := Option.bind_eq_some.mp kept
    by_cases finished : reason = .notFinished
    · subst finished
      simp only [ne_eq, not_true_eq_false, if_false] at rest
      have answered : e' = e₁ ∧ (e₁.channel = .stream ∧ closed = false ∧
            sent = [.ok (InferResponse.streamInprog output e₁.generatedTokens text)] ∨
          e₁.channel = .unary ∧ ¬(e₁.generatedTokens % 16 = 0 ∧ closed = true) ∧ sent = []) := by
        cases channel : e₁.channel <;> simp only [channel] at rest
        · by_cases seen : e₁.generatedTokens % 16 = 0 ∧ closed = true
          · simp [seen] at rest
          · simp only [seen, if_false, Option.some.injEq, TokenOutcome.keep.injEq] at rest
            exact ⟨rest.1.symm, .inr ⟨rfl, seen, rest.2.symm⟩⟩
        · cases closed
          · simp only [Bool.false_eq_true, if_false, Option.some.injEq,
              TokenOutcome.keep.injEq] at rest
            exact ⟨rest.1.symm, .inl ⟨rfl, rfl, rest.2.symm⟩⟩
          · simp at rest
      obtain ⟨rfl, answered⟩ := answered
      exact ⟨text, decoded, check, answered⟩
    · rw [if_pos finished] at rest
      obtain ⟨r, -, impossible⟩ := Option.map_eq_some'.mp rest
      cases impossible

/-- An entry that stays has counted the token. -/
theorem onToken_keep_generatedTokens {now : Nat} {closed : Bool} {e e' : Entry σ}
    {output : Token} {sent : List Reply} (kept : e.onToken dec now closed output = some (.keep e' sent)) :
    e'.generatedTokens = e.generatedTokens + 1 := by
  obtain ⟨text, decoded, -⟩ := onToken_keep kept
  exact (decode_record decoded).2.2

/-- An entry that stays keeps its request and its channel. -/
theorem onToken_keep_frame {now : Nat} {closed : Bool} {e e' : Entry σ} {output : Token}
    {sent : List Reply} (kept : e.onToken dec now closed output = some (.keep e' sent)) :
    e'.request = e.request ∧ e'.channel = e.channel := by
  obtain ⟨text, decoded, -⟩ := onToken_keep kept
  exact ⟨(decode_record decoded).1, (decode_record decoded).2.1⟩

/-- An entry that stays keeps its batch time. -/
theorem onToken_keep_batchTime {now : Nat} {closed : Bool} {e e' : Entry σ} {output : Token}
    {sent : List Reply} (kept : e.onToken dec now closed output = some (.keep e' sent)) :
    e'.batchTime = e.batchTime := by
  obtain ⟨text, decoded, -⟩ := onToken_keep kept
  rw [decode_frame decoded]
  exact record_batchTime e output

/-- An entry that stays has generated fewer tokens than its minimum or its maximum, so counting
its next token cannot wrap. -/
theorem onToken_keep_lt {now : Nat} {closed : Bool} {e e' : Entry σ} {output : Token}
    {sent : List Reply} (kept : e.onToken dec now closed output = some (.keep e' sent)) :
    e'.generatedTokens < e.params.minNewTokens ∨ e'.generatedTokens < e.params.maxNewTokens := by
  obtain ⟨text, -, check, -⟩ := onToken_keep kept
  have below := lt_of_checkStoppingCriteria check
  rwa [Entry.params, (onToken_keep_frame kept).1] at below

/-- An entry that stays can count one more token without wrapping. -/
theorem onToken_keep_room {now : Nat} {closed : Bool} {e e' : Entry σ} {output : Token}
    {sent : List Reply} (kept : e.onToken dec now closed output = some (.keep e' sent)) :
    e'.generatedTokens.toNat + 1 < UInt32.size := by
  have bound := UInt32.toNat_lt_size e.params.maxNewTokens
  have bound' := UInt32.toNat_lt_size e.params.minNewTokens
  rcases onToken_keep_lt kept with below | below <;> rw [uint32_lt_iff_toNat_lt] at below <;> omega

/-- **An entry leaves** after a decoding error, after a terminal response when a stopping
criterion held, or, when none held, because its receiver was seen gone: a stream after the
in-progress message whose send failed, a unary entry on a sixteenth token. -/
theorem onToken_remove {now : Nat} {closed : Bool} {e : Entry σ} {output : Token}
    {sent : List Reply} (removed : e.onToken dec now closed output = some (.remove sent)) :
    (∃ err, (e.record dec output).decode dec output.tokenId = .error err ∧
        sent = [.error (.generation err.toString)]) ∨
      ∃ e' text, (e.record dec output).decode dec output.tokenId = .ok (e', text) ∧
        ((∃ reason r, checkStoppingCriteria dec now e' output.tokenId text = some reason ∧
            reason ≠ .notFinished ∧ e'.finalResponse dec now output text reason = some r ∧
            sent = [r]) ∨
          checkStoppingCriteria dec now e' output.tokenId text = some .notFinished ∧
            closed = true ∧
            (e'.channel = .stream ∧
                sent = [.ok (InferResponse.streamInprog output e'.generatedTokens text)] ∨
              e'.channel = .unary ∧ e'.generatedTokens % 16 = 0 ∧ sent = [])) := by
  unfold onToken at removed
  split at removed
  · rename_i err decoded
    simp only [Option.some.injEq, TokenOutcome.remove.injEq] at removed
    exact .inl ⟨err, decoded, removed.symm⟩
  · rename_i e₁ text decoded
    refine .inr ⟨e₁, text, decoded, ?_⟩
    obtain ⟨reason, check, rest⟩ := Option.bind_eq_some.mp removed
    by_cases finished : reason = .notFinished
    · subst finished
      simp only [ne_eq, not_true_eq_false, if_false] at rest
      refine .inr ⟨check, ?_⟩
      cases channel : e₁.channel <;> simp only [channel] at rest
      · by_cases seen : e₁.generatedTokens % 16 = 0 ∧ closed = true
        · rw [if_pos seen] at rest
          simp only [Option.some.injEq, TokenOutcome.remove.injEq] at rest
          exact ⟨seen.2, .inr ⟨rfl, seen.1, rest.symm⟩⟩
        · simp [seen] at rest
      · cases closed
        · simp at rest
        · simp only [if_true, Option.some.injEq, TokenOutcome.remove.injEq] at rest
          exact ⟨rfl, .inl ⟨rfl, rest.symm⟩⟩
    · rw [if_pos finished] at rest
      obtain ⟨r, final, answered⟩ := Option.map_eq_some'.mp rest
      simp only [TokenOutcome.remove.injEq] at answered
      exact .inl ⟨reason, r, check, finished, final, answered.symm⟩

/-- A terminal response carries the stop reason and the count, and for a unary entry its token
ids and token records. -/
theorem terminal_shape {now : Nat} {e : Entry σ} {output : Token} {text : Option Text}
    {reason : StopReason} {r : Reply} (answered : e.terminal dec now output text reason = some r) :
    ∃ response, r = .ok response ∧ response.reason = reason ∧
      response.genTokenCount = e.generatedTokens ∧
      (e.channel = .unary → response.tokenIds = e.tokenIds ∧ response.tokens = .withIds e.tokens) := by
  unfold terminal at answered
  cases channel : e.channel <;> simp only [channel] at answered <;>
    obtain ⟨response, built, rfl⟩ := Option.map_eq_some'.mp answered
  · unfold InferResponse.unary at built
    obtain ⟨times, -, rfl⟩ := Option.map_eq_some'.mp built
    exact ⟨_, rfl, rfl, rfl, fun _ => ⟨rfl, rfl⟩⟩
  · unfold InferResponse.streamFinal at built
    obtain ⟨times, -, rfl⟩ := Option.map_eq_some'.mp built
    exact ⟨_, rfl, rfl, rfl, fun unary => by simp [channel] at unary⟩

/-- **A terminal response** is a decoding error, or carries the stop reason and the count, and
for a unary entry its token ids and token records. -/
theorem finalResponse_shape {now : Nat} {e : Entry σ} {output : Token} {text : Option Text}
    {reason : StopReason} {r : Reply}
    (answered : e.finalResponse dec now output text reason = some r) :
    (∃ message, r = .error (.generation message)) ∨
      ∃ response, r = .ok response ∧ response.reason = reason ∧
        response.genTokenCount = e.generatedTokens ∧
        (e.channel = .unary → response.tokenIds = e.tokenIds ∧
          response.tokens = .withIds e.tokens) := by
  unfold finalResponse at answered
  split at answered
  · exact .inr (terminal_shape answered)
  · split at answered
    · cases answered
    · split at answered
      · cases answered
        exact .inl ⟨_, rfl⟩
      · obtain ⟨response, answer, reasoned, counted, kept⟩ := terminal_shape answered
        exact .inr ⟨response, answer, reasoned, counted, kept⟩

theorem terminal_isSome (now : Nat) {e : Entry σ} (output : Token) (text : Option Text)
    (reason : StopReason) (stamped : e.batchTime.isSome) :
    (e.terminal dec now output text reason).isSome := by
  unfold terminal InferResponse.streamFinal InferResponse.unary Times.ofEntry
  cases e.channel <;> simpa using stamped

/-- The terminal response does not panic when the batch time is stamped and a decoded piece
comes with a decoder. -/
theorem finalResponse_isSome (now : Nat) {e : Entry σ} (output : Token) {text : Option Text}
    (reason : StopReason) (stamped : e.batchTime.isSome)
    (decoding : text.isSome → e.output.isSome) :
    (e.finalResponse dec now output text reason).isSome := by
  unfold finalResponse
  cases text with
  | none => exact terminal_isSome now output none reason stamped
  | some t =>
    obtain ⟨d, present⟩ := Option.isSome_iff_exists.mp (decoding rfl)
    simp only [present]
    split
    · rfl
    · exact terminal_isSome now output _ reason stamped

/-- **One generated token is processed without a panic** when the entry's stop sequences are
not empty, its batch time is stamped, and its decoder's text ends with what it returns. -/
theorem onToken_isSome (now : Nat) (closed : Bool) {e : Entry σ} (output : Token)
    (nonempty : ∀ s ∈ e.params.stopSeqs, s ≠ []) (stamped : e.batchTime.isSome)
    (ends : dec.EndsWithPieces) : (e.onToken dec now closed output).isSome := by
  unfold onToken
  split
  · rfl
  · rename_i e₁ text decoded
    have ready : e₁.params = e.params ∧ e₁.batchTime = e.batchTime ∧
        (text.isSome → e₁.output.isSome) ∧ (matchesStopSequence dec e₁ text).isSome := by
      rcases decode_eq_ok decoded with ⟨-, rfl, rfl⟩ | ⟨d, d', piece, -, next, rfl, rfl⟩
      · simp [matchesStopSequence]
      · refine ⟨by simp [Entry.params], by simp, by simp, ?_⟩
        exact matchesStopSequence_isSome (by simpa [Entry.params] using nonempty) rfl
          (ends _ _ _ _ next)
    obtain ⟨reason, check⟩ := Option.isSome_iff_exists.mp
      (checkStoppingCriteria_isSome now output.tokenId ready.2.2.2)
    simp only [check, Option.bind_eq_bind, Option.some_bind]
    split
    · simpa using finalResponse_isSome now output reason (ready.2.1 ▸ stamped) ready.2.2.1
    · cases e₁.channel <;> rfl

end Entry

end Batching
