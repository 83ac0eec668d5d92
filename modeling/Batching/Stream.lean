/-
**The stream adapter.**

`ResponseStream` turns the messages on a stream's channel into the items it hands to `map_func`,
and reports to `on_drop` when it is dropped. It decodes in one of two ways. When the request has
stop sequences, the batching loop decodes and sends text deltas, and the adapter concatenates
them (`Accumulator::String`). Otherwise the batching loop sends token ids alone, and the adapter
feeds its own incremental decoder and flushes it at the terminal message
(`Accumulator::Decoder`).

* `ResponseStream.receive`: `poll_next` on one message; `ResponseStream.report`: what `drop`
  passes to `on_drop`;
* `Entry.streamReplies`: what the batcher sends one stream over what happens to it, and
  `Entry.streamReplies_isSome`: it does not panic when the stop sequences are non-empty, the batch
  time is stamped and the input tokens come first;
* `Entry.onToken_adapted`: one generated token, decoded by the loop for an entry with stop
  sequences, and not decoded for the same entry without them;
* `Beside`: the two adapters side by side, the first holding as text what the second's decoder
  has output; `Beside.receive_progress` and `Beside.receive_final` keep it;
* **`streams_agree`**: without the input text, with non-empty stop sequences and an incremental
  decoder that does not fail, the loop sends its messages without a panic, and when no stop
  sequence matches, the two modes yield the same items, `is_decoded` apart, none after an error,
  and report the same count, stop reason, times, text and error to `on_drop`;
* `streams_differ_on_input_text`: when the input text is asked for, the first message carries
  it; the string accumulator keeps it and the decoder does not, so the two modes report different
  accumulated texts.
-/

import Batching.Channels

namespace Batching

variable {σ : Type} {dec : Decoder σ}

/-! ### The adapter -/

/-- `Accumulator`: the text received so far, or the adapter's own incremental decoder. -/
inductive Accumulator (σ : Type)
  | string (text : Text)
  | decoder (d : σ)

/-- `Accumulator::into_string`. -/
def Accumulator.intoString (dec : Decoder σ) : Accumulator σ → Text
  | .string text => text
  | .decoder d => dec.output d

/-- The state of a `ResponseStream` that `poll_next` and `drop` use. Its receiver is the list of
messages it is given, `map_func` is given each item, and `on_drop` each report. -/
structure ResponseStream (σ : Type) where
  includeTokenInfo : Bool
  tokenCount : UInt32
  output : Accumulator σ
  times : Option Times
  stopReason : StopReason
  err : Option InferError

/-- The first token of a response, while its tokens are still ids. -/
def TokenInfos.first : TokenInfos → Option Token
  | .withIds (token :: _) => some token
  | _ => none

namespace ResponseStream

/-- The stream `infer_stream` returns for `request` (lines 164-183). -/
def start (dec : Decoder σ) (request : GenerateRequest) : ResponseStream σ where
  includeTokenInfo := request.parameters.includeGenTokens
  tokenCount := 0
  output := if request.parameters.stopSeqs.isEmpty then .decoder dec.start else .string []
  times := none
  stopReason := .notFinished
  err := none

/-- What the adapter's decoder does with a response (lines 266-283): it takes the response's
first token, if any, and is flushed at a terminal response; the text it returns replaces, then
extends, the response's text. -/
def decodeStep (dec : Decoder σ) (d : σ) (token : Option Token) (ir : InferResponse) :
    σ × InferResponse × Option InferError :=
  let (d, ir, err) : σ × InferResponse × Option InferError := match token with
    | some token =>
      match dec.next d token.tokenId with
      | (d, .ok text) => (d, { ir with outputText := text }, none)
      | (d, .error err) => (d, ir, some err)
    | none => (d, ir, none)
  if err.isNone ∧ ir.reason ≠ .notFinished then
    match dec.flush d with
    | (d, .ok text) => (d, { ir with outputText := ir.outputText ++ text }, none)
    | (d, .error err) => (d, ir, some err)
  else (d, ir, err)

/-- `poll_next` on one message (lines 245-305): the item handed to `map_func`, or `none` for an
in-progress response with no text and no token left, which is skipped. -/
def receive (dec : Decoder σ) (rs : ResponseStream σ) :
    Reply → ResponseStream σ × Option (Except InferError InferResponse)
  | .error err => ({ rs with err := some (.generationError err.toString) },
      some (.error (.generationError err.toString)))
  | .ok ir =>
    let token := ir.tokens.first
    let rs := { rs with
      tokenCount := ir.genTokenCount, stopReason := ir.reason,
      times := if ir.times.isSome then ir.times else rs.times }
    let ir := { ir with times := none }
    let (output, ir, decodeErr) : Accumulator σ × InferResponse × Option InferError :=
      match rs.output with
      | .string text => (.string (text ++ ir.outputText), ir, none)
      | .decoder d =>
        let (d, ir, err) := decodeStep dec d token ir
        (.decoder d, ir, err)
    let rs := { rs with output }
    let ir := { ir with
      tokens := TokenInfos.decode dec.idToToken
        (if rs.includeTokenInfo then ir.tokens else ir.tokens.clear),
      inTokens := TokenInfos.decode dec.idToToken ir.inTokens }
    if ir.tokens.isEmpty ∧ ir.outputText.isEmpty ∧ ir.reason = .notFinished ∧
        ir.genTokenCount ≠ 0 then (rs, none)
    else
      match decodeErr with
      | some err => ({ rs with err := some err }, some (.error err))
      | none => (rs, some (.ok ir))

/-- `poll_next` over messages, oldest first: the stream after them and the items it yielded. -/
def receiveAll (dec : Decoder σ) :
    ResponseStream σ → List Reply → ResponseStream σ × List (Except InferError InferResponse)
  | rs, [] => (rs, [])
  | rs, m :: ms =>
    let (rs, item) := rs.receive dec m
    let (rs, items) := receiveAll dec rs ms
    (rs, item.toList ++ items)

/-- What `drop` passes to `on_drop` (lines 224-238): the count, the stop reason (`Error` or
`Cancelled` if none was received), the times, the accumulated text and the error. -/
def report (dec : Decoder σ) (rs : ResponseStream σ) :
    UInt32 × StopReason × Option Times × Text × Option InferError :=
  (rs.tokenCount,
    if rs.stopReason = .notFinished then (if rs.err.isSome then .error else .cancelled)
    else rs.stopReason,
    rs.times, rs.output.intoString dec, rs.err)

end ResponseStream

/-! ### What the batcher sends a stream -/

/-- What happens to one request in the batching loop. -/
inductive EntryEvent
  /-- Its input tokens, returned by its first step. -/
  | input (tokens : List Token)
  /-- A generated token, processed at instant `now`. -/
  | token (now : Nat) (output : Token)
  /-- A per-request error. -/
  | error (message : String)
  /-- A failed backend call that `send_errors` answers. -/
  | failure (error : ClientError)

/-- The messages the batcher sends a stream, whose receiver is there, over `events`, until it
leaves the in-flight map; `none` where it panics. -/
def Entry.streamReplies (dec : Decoder σ) : Entry σ → List EntryEvent → Option (List Reply)
  | _, [] => some []
  | e, .input tokens :: events =>
    if e.generatedTokens ≠ 0 then none
    else (.ok (.streamInputInfo tokens) :: ·) <$> e.streamReplies dec events
  | e, .token now output :: events =>
    e.onToken dec now false output >>= fun
      | .keep e sent => (sent ++ ·) <$> e.streamReplies dec events
      | .remove sent => some sent
  | e, .error message :: _ => some [.error (.generation (errorMessage e.generatedTokens message))]
  | _, .failure error :: _ => some [.error error]

/-- An input event. -/
def EntryEvent.isInput : EntryEvent → Bool
  | .input _ => true
  | _ => false

/-- The request's input tokens come before its first generated token, as the server returns them
with its first step. -/
def EntryEvent.inputsFirst : List EntryEvent → Bool
  | .input _ :: events => inputsFirst events
  | events => events.all fun ev => !ev.isInput

/-- **After its first token, a stream is processed without a panic** when its stop sequences are
non-empty, its batch time is stamped, no input tokens arrive and the decoder's text ends with each
piece. -/
theorem Entry.streamReplies_isSome_of_started (ends : dec.EndsWithPieces) :
    ∀ (events : List EntryEvent) {e : Entry σ}, (∀ s ∈ e.params.stopSeqs, s ≠ []) →
      e.batchTime.isSome → (events.all fun ev => !ev.isInput) = true →
      (e.streamReplies dec events).isSome
  | [], _, _, _, _ => rfl
  | .input _ :: _, _, _, _, noInput => by simp [EntryEvent.isInput] at noInput
  | .token now output :: events, e, nonempty, stamped, noInput => by
    obtain ⟨outcome, stepped⟩ := Option.isSome_iff_exists.mp
      (Entry.onToken_isSome now false output nonempty stamped ends : (e.onToken dec now false
        output).isSome)
    cases outcome with
    | keep e' sent =>
      have request := (Entry.onToken_keep_frame stepped).1
      have rest := streamReplies_isSome_of_started ends events
        (by rwa [Entry.params, request]) (by rwa [Entry.onToken_keep_batchTime stepped])
        (by simpa [EntryEvent.isInput] using noInput)
      obtain ⟨replies, restSent⟩ := Option.isSome_iff_exists.mp rest
      simp [Entry.streamReplies, stepped, restSent]
    | remove sent => simp [Entry.streamReplies, stepped]
  | .error _ :: _, _, _, _, _ => rfl
  | .failure _ :: _, _, _, _, _ => rfl

/-- **A stream is processed without a panic** from its admission, when its stop sequences are
non-empty, its batch time is stamped, its input tokens come first and the decoder's text ends with
each piece. -/
theorem Entry.streamReplies_isSome (ends : dec.EndsWithPieces) :
    ∀ (events : List EntryEvent) {e : Entry σ}, (∀ s ∈ e.params.stopSeqs, s ≠ []) →
      e.batchTime.isSome → e.generatedTokens = 0 → EntryEvent.inputsFirst events = true →
      (e.streamReplies dec events).isSome
  | .input tokens :: events, e, nonempty, stamped, unstarted, ordered => by
    obtain ⟨replies, restSent⟩ := Option.isSome_iff_exists.mp
      (streamReplies_isSome ends events nonempty stamped unstarted ordered)
    simp [Entry.streamReplies, unstarted, restSent]
  | [], _, nonempty, stamped, _, ordered
  | .token _ _ :: _, _, nonempty, stamped, _, ordered
  | .error _ :: _, _, nonempty, stamped, _, ordered
  | .failure _ :: _, _, nonempty, stamped, _, ordered =>
    streamReplies_isSome_of_started ends _ nonempty stamped ordered

/-- An open stream's step once its token is decoded: check the stopping criteria, then send the
in-progress message or the terminal one. -/
theorem Entry.onToken_open_stream {now : Nat} {e e₁ : Entry σ} {output : Token} {text : Option Text}
    (decoded : (e.record dec output).decode dec output.tokenId = .ok (e₁, text))
    (stream : e₁.channel = .stream) :
    e.onToken dec now false output =
      (checkStoppingCriteria dec now e₁ output.tokenId text).bind fun reason =>
        if reason ≠ .notFinished then
          (fun response => TokenOutcome.remove [response]) <$>
            e₁.finalResponse dec now output text reason
        else some (.keep e₁ [.ok (InferResponse.streamInprog output e₁.generatedTokens text)]) := by
  unfold Entry.onToken
  rw [decoded]
  simp only [stream, Bool.false_eq_true, if_false]
  rfl

/-- A terminal message with text is the one without, decoded. -/
theorem InferResponse.streamFinal_some (output : Token) (t : Text) (e : Entry σ)
    (reason : StopReason) (now : Nat) :
    InferResponse.streamFinal output (some t) e reason now =
      (InferResponse.streamFinal output none e reason now).map
        fun r => { r with isDecoded := true, outputText := t } := by
  simp only [InferResponse.streamFinal, Option.map_map]
  rfl

/-- The request of an entry without its stop sequences. -/
def Entry.withoutStopSeqs (e : Entry σ) : Entry σ :=
  { e with request := { e.request with parameters := { e.params with stopSeqs := [] } } }

/-- What the two modes make of a stream's messages: the items and the report of the adapter
that received its first message and `replies`. -/
def Entry.streamed (dec : Decoder σ) (e : Entry σ) (replies : List Reply) :
    List (Except InferError InferResponse) ×
      (UInt32 × StopReason × Option Times × Text × Option InferError) :=
  let (rs, items) :=
    (ResponseStream.start dec e.request).receiveAll dec (e.firstMessages ++ replies)
  (items, rs.report dec)

/-! ### Incremental decoders -/

/-- The contract of the incremental decoder: it starts with no output, and `next` and `flush`
never fail and return exactly the text they append to its output. -/
structure Decoder.Incremental (dec : Decoder σ) : Prop where
  start : dec.output dec.start = []
  next : ∀ d tokenId, ∃ d' piece, dec.next d tokenId = (d', .ok piece) ∧
    dec.output d' = dec.output d ++ piece
  flush : ∀ d, ∃ d' tail, dec.flush d = (d', .ok tail) ∧ dec.output d' = dec.output d ++ tail

namespace Decoder.Incremental

/-- The piece `next` returns is what it appends to the output. -/
theorem output_next (incremental : dec.Incremental) {d d' : σ} {tokenId : Nat} {piece : Text}
    (next : dec.next d tokenId = (d', .ok piece)) : dec.output d' = dec.output d ++ piece := by
  obtain ⟨d₁, piece₁, next₁, grow⟩ := incremental.next d tokenId
  rw [next] at next₁
  cases next₁
  exact grow

/-- The text `flush` returns is what it appends to the output. -/
theorem output_flush (incremental : dec.Incremental) {d d' : σ} {tail : Text}
    (flushed : dec.flush d = (d', .ok tail)) :
    dec.output d' = dec.output d ++ tail := by
  obtain ⟨d₁, tail₁, flushed₁, grow⟩ := incremental.flush d
  rw [flushed] at flushed₁
  cases flushed₁
  exact grow

/-- The piece `next` returns ends its output. -/
theorem endsWithPieces (incremental : dec.Incremental) : dec.EndsWithPieces :=
  fun _ _ _ piece next => by
    rw [incremental.output_next next]
    exact List.suffix_append _ piece

end Decoder.Incremental

theorem byteDecoder_incremental : byteDecoder.Incremental :=
  ⟨rfl, fun _ _ => ⟨_, _, rfl, rfl⟩, fun d => ⟨_, _, rfl, (List.append_nil d).symm⟩⟩

/-! ### The loop's decoding, seen from the adapter -/

/-- The entry the batching loop holds for a stream without stop sequences: no decoder. -/
def Entry.adapted (e : Entry σ) : Entry σ := { e.withoutStopSeqs with output := none }

@[simp] theorem Entry.adapted_generatedTokens (e : Entry σ) :
    e.adapted.generatedTokens = e.generatedTokens := rfl

@[simp] theorem Entry.adapted_channel (e : Entry σ) : e.adapted.channel = e.channel := rfl

@[simp] theorem Entry.adapted_output (e : Entry σ) (o : Option σ) :
    { e with output := o }.adapted = e.adapted := rfl

/-- An entry admitted without a decoder is adapted once its stop sequences are dropped. -/
theorem Entry.withoutStopSeqs_eq_adapted {e : Entry σ} (undecoded : e.output = none) :
    e.withoutStopSeqs = e.adapted := by
  obtain ⟨_⟩ := e
  simp_all [Entry.adapted, Entry.withoutStopSeqs]

theorem Entry.record_adapted (e : Entry σ) (output : Token) :
    e.adapted.record dec output = (e.record dec output).adapted := by
  simp [Entry.record_eq, Entry.adapted, Entry.withoutStopSeqs, Entry.params]

/-- Without a decoder, decoding returns the entry and no text. -/
theorem Entry.decode_adapted (e : Entry σ) (output : Token) :
    (e.adapted.record dec output).decode dec output.tokenId =
      .ok ((e.record dec output).adapted, none) := by
  rw [Entry.record_adapted]
  rfl

/-- Every stopping criterion but a stop sequence holds as well without the stop sequences and the
decoded text. -/
theorem checkStoppingCriteria_adapted {now : Nat} {e : Entry σ} {lastTokenId : Nat}
    {text : Option Text} {reason : StopReason}
    (check : checkStoppingCriteria dec now e lastTokenId text = some reason)
    (noStop : reason ≠ .stopSequence) :
    checkStoppingCriteria dec now e.adapted lastTokenId none = some reason := by
  unfold checkStoppingCriteria at check ⊢
  simp only [Entry.adapted, Entry.withoutStopSeqs, Entry.params, deadlinePassed] at check ⊢
  -- the four criteria before the stop sequences read the same fields in both
  iterate 4 split at check <;> [rwa [if_pos ‹_›]; rw [if_neg ‹_›]]
  obtain ⟨found, -, rfl⟩ := Option.map_eq_some'.mp check
  cases found
  · rfl
  · exact absurd rfl noStop

/-- What the loop keeps of a stream with stop sequences: its decoder exists from its first token
on, and its count has room for one more. -/
structure Entry.Decoding (e : Entry σ) : Prop where
  stream : e.channel = .stream
  stopping : e.params.stopSeqs ≠ []
  started : e.output = none ↔ e.generatedTokens = 0
  room : e.generatedTokens.toNat + 1 < UInt32.size

/-- An entry that stays with its decoder advanced is still decoding. -/
theorem Entry.Decoding.keep {e e' : Entry σ} (decoding : e.Decoding) {now : Nat} {closed : Bool}
    {output : Token} {sent : List Reply} {d : σ}
    (kept : e.onToken dec now closed output = some (.keep e' sent)) (present : e'.output = some d) :
    e'.Decoding where
  stream := (Entry.onToken_keep_frame kept).2.trans decoding.stream
  stopping := by
    rw [Entry.params, (Entry.onToken_keep_frame kept).1]
    exact decoding.stopping
  started := by
    have counted : e'.generatedTokens.toNat = e.generatedTokens.toNat + 1 := by
      rw [Entry.onToken_keep_generatedTokens kept, uint32_toNat_add_one decoding.room]
    rw [present, uint32_eq_zero_iff, counted]
    simp
  room := Entry.onToken_keep_room kept

/-- Recording a token gives a decoding entry its decoder, a fresh one at the first token. -/
theorem Entry.Decoding.record_output {e : Entry σ} (decoding : e.Decoding) (output : Token) :
    (e.record dec output).output = some (e.output.getD dec.start) := by
  rw [Entry.record_eq]
  by_cases zero : e.generatedTokens = 0
  · simp [zero, decoding.stopping, decoding.started.mpr zero]
  · obtain ⟨d, present⟩ := Option.ne_none_iff_exists'.mp (mt decoding.started.mp zero)
    simp [zero, present]

/-- The messages a token outcome sent. -/
def TokenOutcome.sent : TokenOutcome σ → List Reply
  | .keep _ sent => sent
  | .remove sent => sent

/-- **One token, decoded by the loop or not**: with no stop sequence matching, the loop's message
is the one the entry without stop sequences sends, with the decoded piece as text. -/
theorem Entry.onToken_adapted (incremental : dec.Incremental) {e : Entry σ} (decoding : e.Decoding)
    {now : Nat} {output : Token} {outcome : TokenOutcome σ}
    (stepped : e.onToken dec now false output = some outcome)
    (noStop : ∀ r, .ok r ∈ outcome.sent → r.reason ≠ .stopSequence) :
    ∃ d' piece r, dec.next (e.output.getD dec.start) output.tokenId = (d', .ok piece) ∧
      r.tokens.first = some output ∧
      ((∃ e', r.reason = .notFinished ∧ e'.output = some d' ∧
          outcome = .keep e' [.ok { r with isDecoded := true, outputText := piece }] ∧
          e.adapted.onToken dec now false output = some (.keep e'.adapted [.ok r])) ∨
        ∃ d'' tail, r.reason ≠ .notFinished ∧ dec.flush d' = (d'', .ok tail) ∧
          outcome = .remove [.ok { r with isDecoded := true, outputText := piece ++ tail }] ∧
          e.adapted.onToken dec now false output = some (.remove [.ok r])) := by
  obtain ⟨d', piece, next, -⟩ := incremental.next (e.output.getD dec.start) output.tokenId
  have channel : (e.record dec output).channel = .stream := by
    rw [Entry.record_channel, decoding.stream]
  have decoded : (e.record dec output).decode dec output.tokenId =
      .ok ({ e.record dec output with output := some d' }, some piece) := by
    simp only [Entry.decode, decoding.record_output, next]
  rw [Entry.onToken_open_stream decoded channel] at stepped
  rw [Entry.onToken_open_stream (Entry.decode_adapted e output) channel]
  obtain ⟨reason, check, rest⟩ := Option.bind_eq_some.mp stepped
  refine ⟨d', piece, ?_⟩
  by_cases finished : reason = .notFinished
  · subst finished
    cases rest
    refine ⟨.streamInprog output (e.record dec output).generatedTokens none, next, rfl,
      .inl ⟨_, rfl, rfl, rfl, ?_⟩⟩
    have checkA := checkStoppingCriteria_adapted check (by decide)
    rw [Entry.adapted_output] at checkA
    rw [checkA]
    rfl
  · rw [if_pos finished] at rest
    obtain ⟨d'', tail, flushed, -⟩ := incremental.flush d'
    obtain ⟨response, final, rfl⟩ := Option.map_eq_some'.mp rest
    simp only [Entry.finalResponse, flushed, Entry.terminal, channel,
      InferResponse.streamFinal_some] at final
    obtain ⟨text, piecewise, rfl⟩ := Option.map_eq_some'.mp final
    obtain ⟨r, built, rfl⟩ := Option.map_eq_some'.mp piecewise
    have same :
        InferResponse.streamFinal output none (e.record dec output).adapted reason now = some r :=
      built
    unfold InferResponse.streamFinal at built
    obtain ⟨times, -, rfl⟩ := Option.map_eq_some'.mp built
    have checkA := checkStoppingCriteria_adapted check (noStop _ (List.mem_singleton_self _))
    rw [Entry.adapted_output] at checkA
    refine ⟨_, next, ?_, .inr ⟨d'', tail, ?_, flushed, rfl, ?_⟩⟩
    · rfl
    · exact finished
    · simp only [checkA, Option.some_bind, ne_eq, finished, not_false_eq_true, if_true,
        Entry.finalResponse, Entry.terminal, Entry.adapted_channel, channel, same]
      rfl

/-! ### Two adapters side by side -/

/-- An item with its `is_decoded` flag cleared, the one field the two modes set differently. -/
def undecoded (item : Except InferError InferResponse) : Except InferError InferResponse :=
  item.map fun ir => { ir with isDecoded := false }

/-- No item follows an error. -/
def ErrorsLast {ε α : Type} : List (Except ε α) → Prop
  | [] => True
  | .ok _ :: rest => ErrorsLast rest
  | .error _ :: rest => rest = []

namespace ErrorsLast

variable {ε α : Type}

theorem toList (item : Option (Except ε α)) : ErrorsLast item.toList := by
  rcases item with _ | _ | _ <;> trivial

theorem cons_item {item : Option (Except ε α)} {items : List (Except ε α)}
    (notError : ∀ err, item ≠ some (.error err)) (rest : ErrorsLast items) :
    ErrorsLast (item.toList ++ items) := by
  rcases item with _ | err | _
  · exact rest
  · exact absurd rfl (notError err)
  · exact rest

/-- Items equal but for `is_decoded` have their errors at the same places. -/
theorem of_map_undecoded {items items' : List (Except InferError InferResponse)}
    (same : items.map undecoded = items'.map undecoded) (last : ErrorsLast items) :
    ErrorsLast items' := by
  induction items generalizing items' with
  | nil => rw [List.map_nil, eq_comm, List.map_eq_nil_iff] at same; rw [same]; trivial
  | cons item rest ih =>
    obtain _ | ⟨item', rest'⟩ := items'
    · trivial
    obtain ⟨head, tail⟩ := List.cons.inj same
    cases item <;> cases item' <;> simp only [undecoded, Except.map] at head
    · cases head
      exact List.map_eq_nil_iff.mp ((show rest = [] from last) ▸ tail).symm
    · cases head
    · cases head
    · exact (ih tail last : ErrorsLast rest')

end ErrorsLast

/-- With the string accumulator, a response never becomes an error item. -/
theorem ResponseStream.receive_ok_of_string (dec : Decoder σ) {rs : ResponseStream σ}
    {text : Text} (string : rs.output = .string text) (r : InferResponse) (err : InferError) :
    (rs.receive dec (.ok r)).2 ≠ some (.error err) := by
  simp only [ResponseStream.receive, string]
  split_ifs <;> simp

/-- A message both modes receive alike: an error, or a response with no token, no text and no
stop reason. -/
def Reply.Quiet : Reply → Prop
  | .ok r => r.tokens.first = none ∧ r.outputText = [] ∧ r.reason = .notFinished
  | .error _ => True

/-- The loop's adapter `rsL` and the decoding adapter `rsA`: the first holds as text what the
second's decoder `d` has output, and they agree otherwise. -/
structure Beside (dec : Decoder σ) (d : σ) (rsL rsA : ResponseStream σ) : Prop where
  loop : rsL = { rsA with output := .string (dec.output d) }
  adapter : rsA.output = .decoder d

namespace Beside

variable {d : σ} {rsL rsA : ResponseStream σ}

theorem iff : Beside dec d rsL rsA ↔
    rsL = { rsA with output := .string (dec.output d) } ∧ rsA.output = .decoder d :=
  ⟨fun ⟨loop, adapter⟩ => ⟨loop, adapter⟩, fun ⟨loop, adapter⟩ => ⟨loop, adapter⟩⟩

theorem loop_output (beside : Beside dec d rsL rsA) : rsL.output = .string (dec.output d) := by
  rw [beside.loop]

/-- Side by side, the two adapters report the same to `on_drop`. -/
theorem report (beside : Beside dec d rsL rsA) : rsL.report dec = rsA.report dec := by
  obtain ⟨rfl, adapter⟩ := beside
  simp [ResponseStream.report, adapter, Accumulator.intoString]

/-- A quiet message gives both the same item and keeps them side by side. -/
theorem receive_quiet (beside : Beside dec d rsL rsA) {m : Reply} (quiet : m.Quiet) :
    (rsL.receive dec m).2 = (rsA.receive dec m).2 ∧
      Beside dec d (rsL.receive dec m).1 (rsA.receive dec m).1 := by
  obtain ⟨rfl, adapter⟩ := beside
  cases m with
  | error err => exact ⟨rfl, rfl, adapter⟩
  | ok r =>
    obtain ⟨first, blank, going⟩ := quiet
    simp only [ResponseStream.receive, ResponseStream.decodeStep, adapter, first, going, blank,
      Option.isNone_none, ne_eq, not_true_eq_false, and_false, if_false]
    split_ifs <;> simp_all [Beside.iff]

/-- An in-progress message: the loop's carries the piece its decoder returned for the token, the
adapter's decoder returns that piece itself. -/
theorem receive_progress (beside : Beside dec d rsL rsA) {d' : σ} {r : InferResponse}
    {t : Token} {piece : Text} (first : r.tokens.first = some t)
    (going : r.reason = .notFinished) (next : dec.next d t.tokenId = (d', .ok piece))
    (grow : dec.output d' = dec.output d ++ piece) :
    (rsL.receive dec (.ok { r with isDecoded := true, outputText := piece })).2.map undecoded =
      (rsA.receive dec (.ok r)).2.map undecoded ∧
    Beside dec d' (rsL.receive dec (.ok { r with isDecoded := true, outputText := piece })).1
      (rsA.receive dec (.ok r)).1 := by
  obtain ⟨rfl, adapter⟩ := beside
  simp only [ResponseStream.receive, ResponseStream.decodeStep, adapter, next, first, going,
    Option.isNone_none, ne_eq, not_true_eq_false, and_false, if_false]
  split_ifs <;> simp_all [undecoded, Except.map, Beside.iff]

/-- A terminal message: the loop's carries the piece and the flushed tail, the adapter's decoder
returns the piece and is flushed. -/
theorem receive_final (beside : Beside dec d rsL rsA) {d' d'' : σ} {r : InferResponse}
    {t : Token} {piece tail : Text} (first : r.tokens.first = some t)
    (finished : r.reason ≠ .notFinished) (next : dec.next d t.tokenId = (d', .ok piece))
    (flushed : dec.flush d' = (d'', .ok tail))
    (grow : dec.output d'' = dec.output d ++ (piece ++ tail)) :
    (rsL.receive dec (.ok { r with isDecoded := true, outputText := piece ++ tail })).2.map
        undecoded = (rsA.receive dec (.ok r)).2.map undecoded ∧
    Beside dec d''
      (rsL.receive dec (.ok { r with isDecoded := true, outputText := piece ++ tail })).1
      (rsA.receive dec (.ok r)).1 := by
  obtain ⟨rfl, adapter⟩ := beside
  simp only [ResponseStream.receive, ResponseStream.decodeStep, adapter, next, first, flushed,
    Option.isNone_none, ne_eq, finished, not_false_eq_true, and_self, if_true]
  split_ifs <;> simp_all [undecoded, Except.map, Beside.iff]

end Beside

/-! ### The two modes agree -/

theorem undecoded_toList (item : Option (Except InferError InferResponse)) :
    item.toList.map undecoded = (item.map undecoded).toList := by
  cases item <;> rfl

/-- Receiving one more message each: the items agree if the first ones and the rest agree. -/
theorem receiveAll_cons_undecoded {rsL rsA : ResponseStream σ} {m m' : Reply} {ms ms' : List Reply}
    (head : (rsL.receive dec m).2.map undecoded = (rsA.receive dec m').2.map undecoded)
    (tail : ((rsL.receive dec m).1.receiveAll dec ms).2.map undecoded =
      ((rsA.receive dec m').1.receiveAll dec ms').2.map undecoded) :
    (rsL.receiveAll dec (m :: ms)).2.map undecoded =
      (rsA.receiveAll dec (m' :: ms')).2.map undecoded := by
  simp only [ResponseStream.receiveAll, List.map_append, undecoded_toList, head, tail]

/-- **The simulation**: with no stop sequence matching, the entry without stop sequences sends
messages the decoding adapter turns into the items the loop's adapter yields, `is_decoded` apart,
and the two adapters stay side by side. -/
theorem streamReplies_beside (incremental : dec.Incremental) :
    ∀ (events : List EntryEvent) {e : Entry σ} {replies : List Reply}
      {rsL rsA : ResponseStream σ},
      e.Decoding → Beside dec (e.output.getD dec.start) rsL rsA →
      e.streamReplies dec events = some replies →
      (∀ r, .ok r ∈ replies → r.reason ≠ .stopSequence) →
      ∃ replies', e.adapted.streamReplies dec events = some replies' ∧
        (rsL.receiveAll dec replies).2.map undecoded =
          (rsA.receiveAll dec replies').2.map undecoded ∧
        ErrorsLast (rsL.receiveAll dec replies).2 ∧
        ∃ d, Beside dec d (rsL.receiveAll dec replies).1 (rsA.receiveAll dec replies').1
  | [], _, _, _, _, _, beside, sent, _ => by
    cases sent
    exact ⟨[], rfl, rfl, trivial, _, beside⟩
  | .input tokens :: events, e, _, rsL, rsA, decoding, beside, sent, noStop => by
    simp only [Entry.streamReplies] at sent
    split_ifs at sent with counted
    obtain ⟨rest, restSent, rfl⟩ := Option.map_eq_some'.mp sent
    have quiet := beside.receive_quiet (m := .ok (.streamInputInfo tokens)) ⟨rfl, rfl, rfl⟩
    obtain ⟨rest', adapted, items, last, d, beside'⟩ := streamReplies_beside incremental events
      decoding quiet.2 restSent (fun r member => noStop r (.tail _ member))
    refine ⟨_, ?_, receiveAll_cons_undecoded (by rw [quiet.1]) items,
      .cons_item (ResponseStream.receive_ok_of_string dec beside.loop_output _) last, d, beside'⟩
    simp [Entry.streamReplies, counted, adapted]
  | .token now output :: events, e, _, rsL, rsA, decoding, beside, sent, noStop => by
    obtain ⟨outcome, stepped, rest⟩ := Option.bind_eq_some.mp sent
    have sentFirst : ∀ r, .ok r ∈ outcome.sent → r.reason ≠ .stopSequence := by
      intro r member
      cases outcome with
      | keep e' sent =>
        obtain ⟨tail, -, rfl⟩ := Option.map_eq_some'.mp rest
        exact noStop r (List.mem_append_left _ member)
      | remove sent =>
        cases rest
        exact noStop r member
    obtain ⟨d', piece, r, next, first, ⟨e', going, present, rfl, adapterStep⟩ |
      ⟨d'', tail, finished, flushed, rfl, adapterStep⟩⟩ :=
      Entry.onToken_adapted incremental decoding stepped sentFirst
    · obtain ⟨rest, restSent, rfl⟩ := Option.map_eq_some'.mp rest
      have progress := beside.receive_progress first going next (incremental.output_next next)
      obtain ⟨rest', adapted, items, last, d, beside'⟩ :=
        streamReplies_beside incremental events (decoding.keep stepped present)
          (by rw [present]; exact progress.2) restSent
          (fun r member => noStop r (List.mem_append_right _ member))
      refine ⟨.ok r :: rest', ?_, receiveAll_cons_undecoded progress.1 items,
        .cons_item (ResponseStream.receive_ok_of_string dec beside.loop_output _) last, d,
        beside'⟩
      simp [Entry.streamReplies, adapterStep, adapted]
    · cases rest
      have final := beside.receive_final first finished next flushed
        (by rw [incremental.output_flush flushed, incremental.output_next next, List.append_assoc])
      refine ⟨[.ok r], ?_, receiveAll_cons_undecoded final.1 rfl,
        .cons_item (ResponseStream.receive_ok_of_string dec beside.loop_output _) trivial, _,
        final.2⟩
      simp [Entry.streamReplies, adapterStep]
  | .error message :: _, e, _, rsL, rsA, _, beside, sent, _ => by
    cases sent
    have quiet := beside.receive_quiet
      (m := .error (.generation (errorMessage e.generatedTokens message))) trivial
    exact ⟨_, rfl, receiveAll_cons_undecoded (congrArg _ quiet.1) rfl,
      rfl, _, quiet.2⟩
  | .failure error :: _, _, _, rsL, rsA, _, beside, sent, _ => by
    cases sent
    have quiet := beside.receive_quiet (m := .error error) trivial
    exact ⟨_, rfl, receiveAll_cons_undecoded (by rw [quiet.1]) rfl,
      rfl, _, quiet.2⟩

/-- The two decoding modes agree on the messages the loop sends a stream that does not ask for
its input text, when no stop sequence matches. -/
theorem streams_agree_of_sent (incremental : dec.Incremental) {e : Entry σ} (fresh : e.Fresh)
    (stream : e.channel = .stream) (stopping : e.params.stopSeqs ≠ [])
    (noInputText : e.params.includeInputText = false) {events : List EntryEvent}
    {replies : List Reply}
    (sent : e.streamReplies dec events = some replies)
    (noStop : ∀ r, .ok r ∈ replies → r.reason ≠ .stopSequence) :
    ∃ replies', e.withoutStopSeqs.streamReplies dec events = some replies' ∧
      (e.streamed dec replies).1.map undecoded =
        (e.withoutStopSeqs.streamed dec replies').1.map undecoded ∧
      (e.streamed dec replies).2 = (e.withoutStopSeqs.streamed dec replies').2 ∧
      ErrorsLast (e.streamed dec replies).1 ∧
      ErrorsLast (e.withoutStopSeqs.streamed dec replies').1 := by
  have decoding : e.Decoding :=
    ⟨stream, stopping, by simp [fresh.output, fresh.generatedTokens],
      by rw [fresh.generatedTokens]; decide⟩
  have started : Beside dec (e.output.getD dec.start) (ResponseStream.start dec e.request)
      (ResponseStream.start dec e.withoutStopSeqs.request) := by
    refine ⟨?_, ?_⟩ <;> simp [ResponseStream.start, Entry.withoutStopSeqs, fresh.output,
      incremental.start, List.isEmpty_iff.not.mpr stopping]
  have quiet := started.receive_quiet (m := .ok (InferResponse.streamStart e.inputLength e.request))
    ⟨rfl, by simp [InferResponse.streamStart, show e.request.parameters.includeInputText = false
      from noInputText], rfl⟩
  obtain ⟨replies', adapterSent, items, last, d, beside⟩ :=
    streamReplies_beside incremental events decoding quiet.2 sent noStop
  have firsts : e.firstMessages = [.ok (InferResponse.streamStart e.inputLength e.request)] := by
    simp [Entry.firstMessages, stream]
  have same : e.withoutStopSeqs.firstMessages = e.firstMessages := rfl
  refine ⟨replies', by rwa [Entry.withoutStopSeqs_eq_adapted fresh.output], ?_⟩
  simp only [Entry.streamed, same, firsts, List.singleton_append]
  have sameItems := receiveAll_cons_undecoded (congrArg _ quiet.1) items
  have lastL := ErrorsLast.cons_item (ResponseStream.receive_ok_of_string dec started.loop_output
    (InferResponse.streamStart e.inputLength e.request)) last
  exact ⟨sameItems, beside.report, lastL, lastL.of_map_undecoded sameItems⟩

/-- **The two decoding modes agree** for a stream that does not ask for its input text, with an
incremental decoder: the loop does not panic, and when no stop sequence matches, the two adapters
yield the same items, `is_decoded` apart, and report the same to `on_drop`. -/
theorem streams_agree (incremental : dec.Incremental) {e : Entry σ} (fresh : e.Fresh)
    (stream : e.channel = .stream) (stopping : e.params.stopSeqs ≠ [])
    (nonempty : ∀ s ∈ e.params.stopSeqs, s ≠ [])
    (noInputText : e.params.includeInputText = false) {events : List EntryEvent}
    (ordered : EntryEvent.inputsFirst events = true) :
    ∃ replies, e.streamReplies dec events = some replies ∧
      ((∀ r, .ok r ∈ replies → r.reason ≠ .stopSequence) →
        ∃ replies', e.withoutStopSeqs.streamReplies dec events = some replies' ∧
          (e.streamed dec replies).1.map undecoded =
            (e.withoutStopSeqs.streamed dec replies').1.map undecoded ∧
          (e.streamed dec replies).2 = (e.withoutStopSeqs.streamed dec replies').2 ∧
          ErrorsLast (e.streamed dec replies).1 ∧
          ErrorsLast (e.withoutStopSeqs.streamed dec replies').1) := by
  obtain ⟨replies, sent⟩ := Option.isSome_iff_exists.mp (Entry.streamReplies_isSome
    incremental.endsWithPieces events nonempty fresh.batchTime fresh.generatedTokens ordered)
  exact ⟨replies, sent, streams_agree_of_sent incremental fresh stream stopping noInputText sent⟩

/-- A stream not asking for its input text `"hi"`, of one token at most, with the stop sequence
`"ZZZ"`. -/
def quietEntry : Entry Text :=
  { request := ⟨[104, 105], ⟨0, 1, false, [[90, 90, 90]], none, none, false, false⟩⟩,
    inputLength := 2, queueTime := 0, batchTime := some 0, generatedTokens := 0, tokenIds := [],
    tokens := [], inputTokens := [], output := none, channel := .stream }

/-- The two modes agree on one token that ends the stream. -/
theorem streams_agree_one_token :
    ∃ replies, quietEntry.streamReplies byteDecoder [.token 0 ⟨1, 97⟩] = some replies ∧
      ((∀ r, .ok r ∈ replies → r.reason ≠ .stopSequence) →
        ∃ replies', quietEntry.withoutStopSeqs.streamReplies byteDecoder [.token 0 ⟨1, 97⟩] =
            some replies' ∧
          (quietEntry.streamed byteDecoder replies).1.map undecoded =
            (quietEntry.withoutStopSeqs.streamed byteDecoder replies').1.map undecoded ∧
          (quietEntry.streamed byteDecoder replies).2 =
            (quietEntry.withoutStopSeqs.streamed byteDecoder replies').2 ∧
          ErrorsLast (quietEntry.streamed byteDecoder replies).1 ∧
          ErrorsLast (quietEntry.withoutStopSeqs.streamed byteDecoder replies').1) :=
  streams_agree (e := quietEntry) byteDecoder_incremental ⟨rfl, rfl, rfl, rfl, rfl⟩ rfl
    (by decide) (by decide) rfl rfl

/-! ### A stream that asks for its input text -/

/-- A stream asking for its input text `"hi"`, of one token at most, with the stop sequence
`"ZZZ"`. -/
def echoEntry : Entry Text :=
  { request := ⟨[104, 105], ⟨0, 1, false, [[90, 90, 90]], none, none, true, false⟩⟩,
    inputLength := 2, queueTime := 0, batchTime := some 0, generatedTokens := 0, tokenIds := [],
    tokens := [], inputTokens := [], output := none, channel := .stream }

/-- With the input text asked for, the loop's mode accumulates `"hi"` before the generated
`"a"`, the adapter's decoder only `"a"`: the two modes report different accumulated texts. -/
theorem streams_differ_on_input_text :
    ((echoEntry.streamReplies byteDecoder [.token 0 ⟨1, 97⟩]).map fun replies =>
        (echoEntry.streamed byteDecoder replies).2.2.2.2.1) = some [104, 105, 97] ∧
      ((echoEntry.withoutStopSeqs.streamReplies byteDecoder [.token 0 ⟨1, 97⟩]).map fun replies =>
        (echoEntry.withoutStopSeqs.streamed byteDecoder replies).2.2.2.2.1) = some [97] := by
  decide

end Batching
