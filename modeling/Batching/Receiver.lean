/-
**What the receiver of a stream reads.**

A stream's messages go to the `ResponseStream` that `infer_stream` returns, which hands an item to
`map_func` for each, and reports its count and accumulated text to `on_drop` when dropped. Without
stop sequences the batching loop sends token ids alone and the adapter decodes them with its own
incremental decoder; with stop sequences the loop decodes them itself, and the adapter
concatenates its texts. Here the two meet the batching loop over whole runs of the token
processor, with an incremental decoder.

* `ResponseStream.receive_string` and the `receive_decoder_*` lemmas: what one message does to the
  adapter in either mode;
* `ResponseStream.Reads`: the adapter has read the tokens returned for the request, counted them,
  and holds and has handed on the text of the decoder fed them (flushed once a stop reason came),
  after the input text; `Reads.progress` and `Reads.final` keep it for a token's message;
* `Entry.onToken_stream`: what one token of a stream sends, in either mode;
* `Slot.Streams`, with one lemma per slot step;
* **`run_streamRead`**: over every run, the adapter that read a stream request's channel counts
  every token returned for it, and hands on the input text (if asked for) followed by the text of
  those tokens decoded in order, flushed at the end, whichever side decoded them; its accumulated
  text is that text, after the input text only when the request has stop sequences.
-/

import Batching.Caller
import Batching.Stream

namespace Batching

variable {σ : Type} {dec : Decoder σ}

/-- The input text a stream's first message carries when the request asks for it (lines
149-151). -/
def GenerateRequest.inputText (request : GenerateRequest) : Text :=
  if request.parameters.includeInputText then request.inputs else []

@[simp] theorem InferResponse.streamStart_reason (inputLength : Nat) (request : GenerateRequest) :
    (InferResponse.streamStart inputLength request).reason = .notFinished := rfl

@[simp] theorem InferResponse.streamStart_outputText (inputLength : Nat) (request : GenerateRequest) :
    (InferResponse.streamStart inputLength request).outputText = request.inputText := rfl

/-- The text an item hands to `map_func`: a response's, none for an error. -/
def itemText : Except InferError InferResponse → Text
  | .ok ir => ir.outputText
  | .error _ => []

/-- The text of the items handed to `map_func`, in order. -/
def itemsText (items : List (Except InferError InferResponse)) : Text :=
  items.flatMap itemText

@[simp] theorem itemsText_append (items items' : List (Except InferError InferResponse)) :
    itemsText (items ++ items') = itemsText items ++ itemsText items' :=
  List.flatMap_append _ _ _

namespace ResponseStream

theorem receiveAll_append (rs : ResponseStream σ) (ms ms' : List Reply) :
    rs.receiveAll dec (ms ++ ms') =
      (((rs.receiveAll dec ms).1.receiveAll dec ms').1,
        (rs.receiveAll dec ms).2 ++ ((rs.receiveAll dec ms).1.receiveAll dec ms').2) := by
  induction ms generalizing rs with
  | nil => rfl
  | cons m ms ih => simp [receiveAll, ih]

variable {rs : ResponseStream σ}

/-- With the string accumulator, a response's text is appended to it and handed on. -/
theorem receive_string (dec : Decoder σ) {text : Text} (string : rs.output = .string text)
    (ir : InferResponse) :
    (rs.receive dec (.ok ir)).1.tokenCount = ir.genTokenCount ∧
      (rs.receive dec (.ok ir)).1.stopReason = ir.reason ∧
      (rs.receive dec (.ok ir)).1.output = .string (text ++ ir.outputText) ∧
      itemsText (rs.receive dec (.ok ir)).2.toList = ir.outputText := by
  simp only [receive, string]
  split_ifs with skip <;> simp_all [itemsText, itemText]

variable {d : σ}

/-- With the decoder accumulator, a response with no token and no stop reason leaves the decoder
as it is and its text is handed on. -/
theorem receive_decoder_quiet (decoder : rs.output = .decoder d) (ir : InferResponse)
    (first : ir.tokens.first = none)
    (going : ir.reason = .notFinished) :
    (rs.receive dec (.ok ir)).1.tokenCount = ir.genTokenCount ∧
      (rs.receive dec (.ok ir)).1.stopReason = .notFinished ∧
      (rs.receive dec (.ok ir)).1.output = .decoder d ∧
      itemsText (rs.receive dec (.ok ir)).2.toList = ir.outputText := by
  simp only [receive, decodeStep, decoder, first, going, Option.isNone_none, ne_eq,
    not_true_eq_false, and_false, if_false]
  split_ifs <;> simp_all [itemsText, itemText]

/-- With the decoder accumulator, an in-progress response's token is decoded and the piece handed
on as its text. -/
theorem receive_decoder_progress {d' : σ} {t : Token} {piece : Text}
    (decoder : rs.output = .decoder d) (ir : InferResponse) (first : ir.tokens.first = some t) (going : ir.reason = .notFinished)
    (next : dec.next d t.tokenId = (d', .ok piece)) :
    (rs.receive dec (.ok ir)).1.tokenCount = ir.genTokenCount ∧
      (rs.receive dec (.ok ir)).1.stopReason = .notFinished ∧
      (rs.receive dec (.ok ir)).1.output = .decoder d' ∧
      itemsText (rs.receive dec (.ok ir)).2.toList = piece := by
  simp only [receive, decodeStep, decoder, first, going, next, Option.isNone_none, ne_eq,
    not_true_eq_false, and_false, if_false]
  split_ifs <;> simp_all [itemsText, itemText]

/-- With the decoder accumulator, a terminal response's token is decoded, the decoder flushed, and
the piece and the tail handed on as its text. -/
theorem receive_decoder_final {d' d'' : σ} {t : Token} {piece tail : Text}
    (decoder : rs.output = .decoder d) (ir : InferResponse) (first : ir.tokens.first = some t)
    (finished : ir.reason ≠ .notFinished) (next : dec.next d t.tokenId = (d', .ok piece))
    (flushed : dec.flush d' = (d'', .ok tail)) :
    (rs.receive dec (.ok ir)).1.tokenCount = ir.genTokenCount ∧
      (rs.receive dec (.ok ir)).1.stopReason = ir.reason ∧
      (rs.receive dec (.ok ir)).1.output = .decoder d'' ∧
      itemsText (rs.receive dec (.ok ir)).2.toList = piece ++ tail := by
  simp only [receive, decodeStep, decoder, first, next, flushed, Option.isNone_none, ne_eq,
    finished, not_false_eq_true, and_self, if_true]
  split_ifs <;> simp_all [itemsText, itemText]

/-- An error is recorded and handed on with no text. -/
theorem receive_error (dec : Decoder σ) (rs : ResponseStream σ) (err : ClientError) :
    (rs.receive dec (.error err)).1 = { rs with err := some (.generationError err.toString) } ∧
      itemsText (rs.receive dec (.error err)).2.toList = [] :=
  ⟨rfl, rfl⟩

/-- What the adapter of a stream for `request` makes of the messages `ms` on its channel: its
state and the items it handed on. -/
def read (dec : Decoder σ) (request : GenerateRequest) (ms : List Reply) :
    ResponseStream σ × List (Except InferError InferResponse) :=
  (start dec request).receiveAll dec ms

theorem read_append (request : GenerateRequest) (ms sent : List Reply) :
    read dec request (ms ++ sent) =
      (((read dec request ms).1.receiveAll dec sent).1,
        (read dec request ms).2 ++ ((read dec request ms).1.receiveAll dec sent).2) :=
  receiveAll_append _ ms sent

theorem read_snoc (request : GenerateRequest) (ms : List Reply) (m : Reply) :
    read dec request (ms ++ [m]) =
      (((read dec request ms).1.receive dec m).1,
        (read dec request ms).2 ++ ((read dec request ms).1.receive dec m).2.toList) := by
  rw [read_append]
  simp [receiveAll]

end ResponseStream

/-! ### What the adapter has read -/

/-- The decoder whose text a stream has received after the tokens with ids `tokenIds`: fed them
all, and flushed once a stop reason arrived. -/
def streamedDecoder (dec : Decoder σ) (tokenIds : List Nat) (reason : StopReason) : σ :=
  if reason = .notFinished then dec.feed tokenIds else (dec.flush (dec.feed tokenIds)).1

/-- The accumulator of a stream for `request` that holds the text of the decoder `d`: the decoder
itself without stop sequences, its text after the input text with them. -/
def streamAccumulator (dec : Decoder σ) (request : GenerateRequest) (d : σ) : Accumulator σ :=
  if request.parameters.stopSeqs = [] then .decoder d
  else .string (request.inputText ++ dec.output d)

/-- What the adapter of the stream request admitted as `e₀` has read after the tokens `returned`:
their count, and the text of the decoder fed them (flushed once a stop reason arrived), held in
its accumulator and handed on after the input text. -/
structure ResponseStream.Reads (dec : Decoder σ) (e₀ : Entry σ) (returned : List Token)
    (rs : ResponseStream σ) (items : List (Except InferError InferResponse)) : Prop where
  count : rs.tokenCount.toNat = returned.length
  output : rs.output = streamAccumulator dec e₀.request
    (streamedDecoder dec (returned.map Token.tokenId) rs.stopReason)
  text : itemsText items =
    e₀.request.inputText ++ dec.output (streamedDecoder dec (returned.map Token.tokenId) rs.stopReason)

namespace ResponseStream.Reads

variable {e₀ : Entry σ} {returned : List Token} {rs : ResponseStream σ}
  {items : List (Except InferError InferResponse)}

/-- An error changes nothing the adapter has read. -/
theorem error (reads : Reads dec e₀ returned rs items) (err : ClientError) :
    Reads dec e₀ returned (rs.receive dec (.error err)).1
      (items ++ (rs.receive dec (.error err)).2.toList) := by
  obtain ⟨same, quiet⟩ := receive_error dec rs err
  rw [same]
  exact ⟨reads.count, reads.output, by rw [itemsText_append, quiet, List.append_nil, reads.text]⟩

/-- **An in-progress message** for the next token: the adapter decodes its token itself without
stop sequences, and receives the piece the loop's decoder returned for it with them; either way it
has read the token. -/
theorem progress (incremental : dec.Incremental) (reads : Reads dec e₀ returned rs items)
    (going : rs.stopReason = .notFinished) {output : Token} {count : UInt32}
    (counted : count.toNat = returned.length + 1) {d' : σ} {piece : Text}
    (next : dec.next (dec.feed (returned.map Token.tokenId)) output.tokenId = (d', .ok piece))
    {text : Option Text}
    (texted : e₀.params.stopSeqs = [] ∧ text = none ∨ e₀.params.stopSeqs ≠ [] ∧ text = some piece) :
    Reads dec e₀ (returned ++ [output]) (rs.receive dec (.ok (.streamInprog output count text))).1
        (items ++ (rs.receive dec (.ok (.streamInprog output count text))).2.toList) ∧
      (rs.receive dec (.ok (.streamInprog output count text))).1.stopReason = .notFinished := by
  have fed : dec.feed (returned.map Token.tokenId ++ [output.tokenId]) = d' := by
    rw [Decoder.feed_append_singleton, next]
  have grow := incremental.output_next next
  have counted' : count.toNat = (returned ++ [output]).length := by
    rw [List.length_append, List.length_singleton, counted]
  rcases texted with ⟨plain, rfl⟩ | ⟨stopping, rfl⟩
  · have decoder : rs.output = .decoder (dec.feed (returned.map Token.tokenId)) := by
      rw [reads.output, going]
      simp [streamAccumulator, streamedDecoder, plain]
    obtain ⟨count', going', output', text'⟩ := receive_decoder_progress decoder (.streamInprog output count none) rfl rfl next
    refine ⟨⟨by rw [count']; exact counted', ?_, ?_⟩, going'⟩
    · rw [output', going']
      simp [streamAccumulator, streamedDecoder, plain, fed]
    · rw [itemsText_append, text', reads.text, going, going']
      simp [streamedDecoder, fed, grow]
  · have string : rs.output =
        .string (e₀.request.inputText ++ dec.output (dec.feed (returned.map Token.tokenId))) := by
      rw [reads.output, going]
      simp [streamAccumulator, streamedDecoder, stopping]
    obtain ⟨count', going', output', text'⟩ :=
      receive_string dec string (.streamInprog output count (some piece))
    refine ⟨⟨by rw [count']; exact counted', ?_, ?_⟩, going'⟩
    · rw [output', going']
      simp [streamAccumulator, streamedDecoder, stopping, fed, grow, InferResponse.streamInprog]
    · rw [itemsText_append, text', reads.text, going, going']
      simp [streamedDecoder, fed, grow, InferResponse.streamInprog]

/-- **A terminal message** for the last token: the adapter decodes its token and flushes its
decoder without stop sequences, and receives the piece and the tail the loop's decoder returned
with them; either way it has read the token and the flushed text. -/
theorem final (incremental : dec.Incremental) (reads : Reads dec e₀ returned rs items)
    (going : rs.stopReason = .notFinished) {output : Token} {resp : InferResponse}
    (first : resp.tokens.first = some output) (counted : resp.genTokenCount.toNat = returned.length + 1)
    (finished : resp.reason ≠ .notFinished) {d' d'' : σ} {piece tail : Text}
    (next : dec.next (dec.feed (returned.map Token.tokenId)) output.tokenId = (d', .ok piece))
    (flushed : dec.flush d' = (d'', .ok tail))
    (texted : e₀.params.stopSeqs = [] ∨ e₀.params.stopSeqs ≠ [] ∧ resp.outputText = piece ++ tail) :
    Reads dec e₀ (returned ++ [output]) (rs.receive dec (.ok resp)).1
      (items ++ (rs.receive dec (.ok resp)).2.toList) := by
  have fed : dec.feed (returned.map Token.tokenId ++ [output.tokenId]) = d' := by
    rw [Decoder.feed_append_singleton, next]
  have grow : dec.output d'' = dec.output (dec.feed (returned.map Token.tokenId)) ++ (piece ++ tail) := by
    rw [incremental.output_flush flushed, incremental.output_next next, List.append_assoc]
  have counted' : resp.genTokenCount.toNat = (returned ++ [output]).length := by
    rw [List.length_append, List.length_singleton, counted]
  rcases texted with plain | ⟨stopping, texted⟩
  · have decoder : rs.output = .decoder (dec.feed (returned.map Token.tokenId)) := by
      rw [reads.output, going]
      simp [streamAccumulator, streamedDecoder, plain]
    obtain ⟨count', reason', output', text'⟩ :=
      receive_decoder_final decoder resp first finished next flushed
    refine ⟨by rw [count']; exact counted', ?_, ?_⟩
    · rw [output', reason']
      simp [streamAccumulator, streamedDecoder, plain, fed, flushed, finished]
    · rw [itemsText_append, text', reads.text, going, reason']
      simp [streamedDecoder, fed, flushed, finished, grow]
  · have string : rs.output =
        .string (e₀.request.inputText ++ dec.output (dec.feed (returned.map Token.tokenId))) := by
      rw [reads.output, going]
      simp [streamAccumulator, streamedDecoder, stopping]
    obtain ⟨count', reason', output', text'⟩ := receive_string dec string resp
    refine ⟨by rw [count']; exact counted', ?_, ?_⟩
    · rw [output', reason']
      simp [streamAccumulator, streamedDecoder, stopping, fed, flushed, finished, grow, texted]
    · rw [itemsText_append, text', reads.text, going, reason']
      simp [streamedDecoder, fed, flushed, finished, grow, texted]

/-- A message with no token, no text and no stop reason, sent before any token. -/
theorem quiet (reads : Reads dec e₀ returned rs items) (going : rs.stopReason = .notFinished)
    (ir : InferResponse) (first : ir.tokens.first = none) (unfinished : ir.reason = .notFinished)
    (counted : ir.genTokenCount.toNat = returned.length) (blank : ir.outputText = []) :
    Reads dec e₀ returned (rs.receive dec (.ok ir)).1 (items ++ (rs.receive dec (.ok ir)).2.toList) ∧
      (rs.receive dec (.ok ir)).1.stopReason = .notFinished := by
  by_cases plain : e₀.params.stopSeqs = []
  · have decoder : rs.output = .decoder (dec.feed (returned.map Token.tokenId)) := by
      rw [reads.output, going]
      simp [streamAccumulator, streamedDecoder, plain]
    obtain ⟨count', going', output', text'⟩ := receive_decoder_quiet decoder ir first unfinished
    refine ⟨⟨by rw [count']; exact counted, ?_, ?_⟩, going'⟩
    · rw [output', going', ← going]
      exact decoder.symm.trans reads.output
    · rw [itemsText_append, text', blank, List.append_nil, reads.text, going, going']
  · have string : rs.output =
        .string (e₀.request.inputText ++ dec.output (dec.feed (returned.map Token.tokenId))) := by
      rw [reads.output, going]
      simp [streamAccumulator, streamedDecoder, plain]
    obtain ⟨count', going', output', text'⟩ := receive_string dec string ir
    rw [unfinished] at going'
    refine ⟨⟨by rw [count']; exact counted, ?_, ?_⟩, going'⟩
    · rw [output', going', blank, List.append_nil, ← going]
      exact string.symm.trans reads.output
    · rw [itemsText_append, text', blank, List.append_nil, reads.text, going, going']

/-- The first message of a stream, sent by `infer_stream` before any token: the adapter has read
no token, and handed on the input text if asked for. -/
theorem start (incremental : dec.Incremental) (e₀ : Entry σ) :
    Reads dec e₀ [] (read dec e₀.request [.ok (.streamStart e₀.inputLength e₀.request)]).1
        (read dec e₀.request [.ok (.streamStart e₀.inputLength e₀.request)]).2 ∧
      (read dec e₀.request [.ok (.streamStart e₀.inputLength e₀.request)]).1.stopReason =
        .notFinished := by
  have first : read dec e₀.request [.ok (.streamStart e₀.inputLength e₀.request)] =
      (((ResponseStream.start dec e₀.request).receive dec (.ok (.streamStart e₀.inputLength e₀.request))).1,
        ((ResponseStream.start dec e₀.request).receive dec
          (.ok (.streamStart e₀.inputLength e₀.request))).2.toList) := by
    simp [read, receiveAll]
  rw [first]
  by_cases plain : e₀.params.stopSeqs = []
  · have decoder : (ResponseStream.start dec e₀.request).output = .decoder (dec.feed []) := by
      simp [ResponseStream.start, plain, Entry.params, Decoder.feed]
    obtain ⟨count', going', output', text'⟩ :=
      receive_decoder_quiet decoder (.streamStart e₀.inputLength e₀.request) rfl rfl
    refine ⟨⟨by rw [count']; rfl, ?_, ?_⟩, going'⟩
    · rw [output', going']
      simp [streamAccumulator, streamedDecoder, plain]
    · rw [text', going']
      simp [streamedDecoder, Decoder.feed, incremental.start]
  · have string : (ResponseStream.start dec e₀.request).output = .string [] := by
      simp [ResponseStream.start, plain, Entry.params]
    obtain ⟨count', going', output', text'⟩ := receive_string dec string
      (.streamStart e₀.inputLength e₀.request)
    rw [InferResponse.streamStart_reason] at going'
    refine ⟨⟨by rw [count']; rfl, ?_, ?_⟩, going'⟩
    · rw [output', going']
      simp [streamAccumulator, streamedDecoder, plain, Decoder.feed, incremental.start]
    · rw [text', going']
      simp [streamedDecoder, Decoder.feed, incremental.start]

end ResponseStream.Reads

/-! ### One token of a stream -/

/-- What a terminal stream response holds. -/
theorem InferResponse.streamFinal_fields {output : Token} {text : Option Text} {e : Entry σ}
    {reason : StopReason} {now : Nat} {resp : InferResponse}
    (built : InferResponse.streamFinal output text e reason now = some resp) :
    resp.tokens = .withIds [output] ∧ resp.genTokenCount = e.generatedTokens ∧
      resp.reason = reason ∧ resp.outputText = text.getD [] := by
  unfold InferResponse.streamFinal at built
  obtain ⟨times, -, rfl⟩ := Option.map_eq_some'.mp built
  exact ⟨rfl, rfl, rfl, rfl⟩

/-- **The terminal message of a stream**, with an incremental decoder: a response for the token,
with the count and the reason, whose text is the decoded piece and the flushed tail when a piece
came with the decoder. -/
theorem Entry.finalResponse_stream (incremental : dec.Incremental) {now : Nat} {e : Entry σ}
    {output : Token} {text : Option Text} {reason : StopReason} {r : Reply}
    (stream : e.channel = .stream) (answered : e.finalResponse dec now output text reason = some r) :
    ∃ resp, r = .ok resp ∧ resp.tokens.first = some output ∧
      resp.genTokenCount = e.generatedTokens ∧ resp.reason = reason ∧
      ∀ t d, text = some t → e.output = some d →
        ∃ d'' tail, dec.flush d = (d'', .ok tail) ∧ resp.outputText = t ++ tail := by
  have terminal : ∀ e' : Entry σ, e'.channel = .stream → ∀ text',
      e'.terminal dec now output text' reason = some r →
        ∃ resp, r = .ok resp ∧ resp.tokens = .withIds [output] ∧
          resp.genTokenCount = e'.generatedTokens ∧ resp.reason = reason ∧
          resp.outputText = text'.getD [] := fun e' stream' text' built => by
    unfold terminal at built
    rw [stream'] at built
    obtain ⟨resp, built', rfl⟩ := Option.map_eq_some'.mp built
    exact ⟨resp, rfl, InferResponse.streamFinal_fields built'⟩
  unfold finalResponse at answered
  cases text with
  | none =>
    obtain ⟨resp, rfl, tokens, count, reasoned, -⟩ := terminal e stream none answered
    exact ⟨resp, rfl, by rw [tokens]; rfl, count, reasoned, fun _ _ none => by cases none⟩
  | some t =>
    cases present : e.output with
    | none => rw [present] at answered; cases answered
    | some d =>
      rw [present] at answered
      obtain ⟨d'', tail, flushed, -⟩ := incremental.flush d
      simp only [flushed] at answered
      obtain ⟨resp, rfl, tokens, count, reasoned, texted⟩ :=
        terminal { e with output := some d'' } stream _ answered
      refine ⟨resp, rfl, by rw [tokens]; rfl, count, reasoned, fun t' d' same same' => ?_⟩
      cases same
      cases same'
      exact ⟨d'', tail, flushed, texted⟩

/-- **One token of a stream**, with an incremental decoder fed the tokens returned before: an
in-progress message, with the piece as text when the request has stop sequences, or a terminal
message, with the piece and the flushed tail. -/
theorem Entry.onToken_stream (incremental : dec.Incremental) {e : Entry σ} {returned : List Token}
    (accumulates : e.Accumulates dec returned) (room : returned.length + 1 < UInt32.size)
    (plain : e.params.stopSeqs = [] → e.output = none) (stream : e.channel = .stream)
    {now : Nat} {closed : Bool} {output : Token} {outcome : TokenOutcome σ}
    (stepped : e.onToken dec now closed output = some outcome) {d' : σ} {piece : Text}
    (next : dec.next (dec.feed (returned.map Token.tokenId)) output.tokenId = (d', .ok piece)) :
    (∃ count text, outcome.sent = [.ok (.streamInprog output count text)] ∧
        count.toNat = returned.length + 1 ∧
        (e.params.stopSeqs = [] ∧ text = none ∨ e.params.stopSeqs ≠ [] ∧ text = some piece)) ∨
      ∃ resp d'' tail, outcome = .remove [.ok resp] ∧ resp.tokens.first = some output ∧
        resp.genTokenCount.toNat = returned.length + 1 ∧ resp.reason ≠ .notFinished ∧
        dec.flush d' = (d'', .ok tail) ∧
        (e.params.stopSeqs = [] ∨ e.params.stopSeqs ≠ [] ∧ resp.outputText = piece ++ tail) := by
  -- the loop's decoder, if any, is fed the token
  have decoded : (e.record dec output).decode dec output.tokenId =
      if e.params.stopSeqs = [] then .ok (e.record dec output, none)
      else .ok ({ e.record dec output with output := some d' }, some piece) := by
    by_cases stopping : e.params.stopSeqs = []
    · have recorded : (e.record dec output).output = none := by
        simp [Entry.record_eq, stopping, plain stopping]
      simp [stopping, Entry.decode, recorded]
    · simp [stopping, Entry.decode, accumulates.record_output stopping, next]
  have counted : ∀ e' : Entry σ, ∀ text, (e.record dec output).decode dec output.tokenId =
      .ok (e', text) → e'.generatedTokens.toNat = returned.length + 1 ∧
        (e.params.stopSeqs = [] ∧ text = none ∧ e'.output = none ∨
          e.params.stopSeqs ≠ [] ∧ text = some piece ∧ e'.output = some d') := by
    intro e' text same
    refine ⟨by rw [(Entry.decode_record same).2.2, uint32_toNat_add_one (accumulates.count ▸ room),
      accumulates.count], ?_⟩
    rw [decoded] at same
    split_ifs at same with stopping <;> cases same
    · exact .inl ⟨stopping, rfl, by simp [Entry.record_eq, stopping, plain stopping]⟩
    · exact .inr ⟨stopping, rfl, rfl⟩
  cases outcome with
  | keep e' sent =>
    obtain ⟨text, same, -, ⟨-, -, rfl⟩ | ⟨unary, -⟩⟩ := Entry.onToken_keep stepped
    · obtain ⟨count, texted⟩ := counted e' text same
      exact .inl ⟨_, text, rfl, count, texted.imp (fun t => ⟨t.1, t.2.1⟩) (fun t => ⟨t.1, t.2.1⟩)⟩
    · rw [(Entry.decode_record same).2.1, stream] at unary
      cases unary
  | remove sent =>
    rcases Entry.onToken_remove stepped with
      ⟨err, failed, -⟩ | ⟨e', text, same, ⟨reason, r, -, finished, final, rfl⟩ | ⟨-, -, ⟨-, rfl⟩ | ⟨unary, -⟩⟩⟩
    · rw [decoded] at failed
      split_ifs at failed
    · obtain ⟨count, texted⟩ := counted e' text same
      obtain ⟨resp, rfl, first, count', reasoned, flushes⟩ :=
        Entry.finalResponse_stream incremental ((Entry.decode_record same).2.1.trans stream) final
      obtain ⟨d'', tail, flushed, -⟩ := incremental.flush d'
      refine .inr ⟨resp, d'', tail, rfl, first, by rw [count']; exact count, reasoned ▸ finished,
        flushed, ?_⟩
      rcases texted with ⟨plain', -⟩ | ⟨stopping, rfl, present⟩
      · exact .inl plain'
      · obtain ⟨d₁, tail₁, flushed₁, texted⟩ := flushes piece d' rfl present
        rw [flushed] at flushed₁
        cases flushed₁
        exact .inr ⟨stopping, texted⟩
    · obtain ⟨count, texted⟩ := counted e' text same
      exact .inl ⟨_, text, rfl, count, texted.imp (fun t => ⟨t.1, t.2.1⟩) (fun t => ⟨t.1, t.2.1⟩)⟩
    · rw [(Entry.decode_record same).2.1, stream] at unary
      cases unary

/-! ### Over runs -/

/-- What the adapter of the stream request admitted as `e₀` has read off its slot's channel,
given the tokens `returned` for it: besides what the slot holds for the caller, no stop reason
while the entry is in flight, and the count and the text of those tokens. -/
structure Slot.Streams (dec : Decoder σ) (e₀ : Entry σ) (returned : List Token) (s : Slot σ) :
    Prop where
  texts : s.Texts dec e₀ returned
  going : e₀.channel = .stream → s.entry.isSome →
    (ResponseStream.read dec e₀.request s.sent).1.stopReason = .notFinished
  reads : e₀.channel = .stream →
    ResponseStream.Reads dec e₀ returned (ResponseStream.read dec e₀.request s.sent).1
      (ResponseStream.read dec e₀.request s.sent).2

namespace Slot.Streams

variable {e₀ : Entry σ} {returned : List Token} {s s' : Slot σ}

/-- An error that empties the slot is read as such. -/
theorem vacant_error (slot : s.Streams dec e₀ returned) {err : ClientError}
    (texts : s'.Texts dec e₀ returned) (gone : s'.entry = none)
    (sent : s'.sent = s.sent ++ [.error err]) : s'.Streams dec e₀ returned := by
  refine ⟨texts, fun _ present => by simp [gone] at present, fun stream => ?_⟩
  rw [sent, ResponseStream.read_snoc]
  exact (slot.reads stream).error err

theorem onInput (slot : s.Streams dec e₀ returned) {tokens : List Token}
    (done : s.onInput tokens = some s') : s'.Streams dec e₀ returned := by
  have texts := slot.texts.onInput done
  obtain ⟨e, present, zero, ⟨stream, rfl⟩ | ⟨-, rfl⟩⟩ := onInput_eq_some done
  · obtain ⟨-, channel, -, counted⟩ := slot.texts.accumulates.entry e present
    have stream₀ : e₀.channel = .stream := channel ▸ stream
    have nothing : returned.length = 0 := by rw [← counted.count, zero]; rfl
    obtain ⟨reads, going⟩ := (slot.reads stream₀).quiet (slot.going stream₀ (by simp [present]))
      (.streamInputInfo tokens) rfl rfl (by rw [nothing]; rfl) rfl
    refine ⟨texts, fun _ _ => ?_, fun _ => ?_⟩ <;> simp only [ResponseStream.read_snoc]
    · exact going
    · exact reads
  · exact ⟨texts, fun stream₀ _ => slot.going stream₀ (by simp [present]), slot.reads⟩

/-- **One generated token of a stream is read**: the adapter has read the token's in-progress or
terminal message, and the entry, if it stays, has had no stop reason. -/
theorem onToken (incremental : dec.Incremental) (slot : s.Streams dec e₀ returned) {now : Nat}
    {output : Token} (done : s.onToken dec now output = some s') :
    s'.Streams dec e₀ (returned ++ [output]) := by
  have texts := slot.texts.onToken done
  obtain ⟨e, outcome, present, stepped, rfl⟩ := onToken_eq_some done
  by_cases stream₀ : e₀.channel = .stream
  swap
  · exact ⟨texts, fun stream => absurd stream stream₀, fun stream => absurd stream stream₀⟩
  obtain ⟨request, channel, room, counted⟩ := slot.texts.accumulates.entry e present
  have params : e.params = e₀.params := by rw [Entry.params, request]
  have going := slot.going stream₀ (by simp [present])
  have reads := slot.reads stream₀
  obtain ⟨d', piece, next, -⟩ :=
    incremental.next (dec.feed (returned.map Token.tokenId)) output.tokenId
  have sent : (s.after outcome).sent = s.sent ++ outcome.sent := by cases outcome <;> rfl
  rcases Entry.onToken_stream incremental counted room
      (fun plain => slot.texts.plain (params ▸ plain) e present) (channel.trans stream₀) stepped
      next with
    ⟨count, text, said, count', texted⟩ | ⟨resp, d'', tail, rfl, first, count', finished, flushed, texted⟩
  · rw [params] at texted
    obtain ⟨reads', going'⟩ := reads.progress incremental going count' next texted
    refine ⟨texts, fun _ _ => ?_, fun _ => ?_⟩ <;> rw [sent, said, ResponseStream.read_snoc]
    · exact going'
    · exact reads'
  · rw [params] at texted
    refine ⟨texts, fun _ gone => by simp [Slot.after] at gone, fun _ => ?_⟩
    rw [sent, TokenOutcome.sent, ResponseStream.read_snoc]
    exact reads.final incremental going first count' finished next flushed texted

theorem onError (slot : s.Streams dec e₀ returned) {message : String}
    (done : s.onError message = some s') : s'.Streams dec e₀ returned := by
  have texts := slot.texts.onError done
  obtain ⟨e, -, rfl⟩ := onError_eq_some done
  exact slot.vacant_error texts rfl rfl

theorem onFailure (slot : s.Streams dec e₀ returned) (error : ClientError) (keep : Bool) :
    (s.onFailure error keep).Streams dec e₀ returned := by
  have texts := slot.texts.onFailure error keep
  unfold Slot.onFailure at texts ⊢
  split
  · exact slot.vacant_error (by simpa [*] using texts) rfl rfl
  · exact slot

/-- An admitted stream has read its first message. -/
theorem enter (incremental : dec.Incremental) {e : Entry σ} (fresh : e.Fresh) (closed : Bool) :
    Slot.Streams dec e [] ⟨some e, e.firstMessages, closed⟩ := by
  refine ⟨.enter fresh closed, fun stream _ => ?_, fun stream => ?_⟩ <;>
    simp only [Entry.firstMessages, stream]
  · exact (ResponseStream.Reads.start incremental e).2
  · exact (ResponseStream.Reads.start incremental e).1

theorem onCall (incremental : dec.Incremental) (slot : s.Streams dec e₀ returned)
    {clock : Nat → Nat} {result : TokenProcessor.CallResult} {startId : Option Nat} {id : Nat}
    (done : s.onCall dec clock result startId id = some s') :
    s'.Streams dec e₀ (returned ++ (Event.call (σ := σ) clock result startId).returned id) :=
  Slot.onCall_preserves (P := fun returned s => s.Streams dec e₀ returned)
    (fun _ _ _ _ slot => slot.onInput)
    (fun _ _ _ _ _ _ slot => slot.onToken incremental)
    (fun _ _ _ _ slot => slot.onError)
    (fun _ error keep _ slot => slot.onFailure error keep) _ slot done

end Slot.Streams

variable {allowed : Event σ → Prop}

/-- **What the receiver of a stream reads**, over every run, with an incremental decoder: the
count of the tokens returned, the input text if asked for, then their decoded text, whichever side
decoded them; `drop` reports that text, after the input text only with stop sequences. -/
theorem run_streamRead (incremental : dec.Incremental) {history : List (Event σ)}
    {p : TokenProcessor σ} (run : Run dec allowed history p) :
    ∀ id e₀ rs items, admitted history id = some e₀ → e₀.channel = .stream →
      ResponseStream.read dec e₀.request (p.sent id) = (rs, items) →
      rs.tokenCount.toNat = (returned history id).length ∧
        itemsText items = e₀.request.inputText ++
          dec.output (streamedDecoder dec ((returned history id).map Token.tokenId) rs.stopReason) ∧
        rs.output.intoString dec =
          (if e₀.params.stopSeqs = [] then [] else e₀.request.inputText) ++
            dec.output (streamedDecoder dec ((returned history id).map Token.tokenId) rs.stopReason) := by
  intro id e₀ rs items found stream read
  have slot := run.admittedSlots (J := fun e₀ returned s => s.Streams dec e₀ returned)
    (fun _ closed fresh _ => .enter incremental fresh closed)
    (fun _ _ _ slot => ⟨⟨⟨slot.texts.accumulates.entry, slot.texts.accumulates.silent,
      slot.texts.accumulates.answers⟩, slot.texts.plain, slot.texts.texts⟩, slot.going, slot.reads⟩)
    (fun _ _ _ _ _ _ _ _ slot done => slot.onCall incremental done) e₀ found
  have reads := slot.reads stream
  rw [show (p.slot id).sent = p.sent id from rfl, read] at reads
  refine ⟨reads.count, reads.text, ?_⟩
  rw [reads.output, streamAccumulator]
  split_ifs <;> simp [Accumulator.intoString]

/-- Request 1 admitted as a stream with no stop sequence, then answered with the
end-of-sequence token. -/
def eosStreamed : TokenProcessor Text :=
  (((TokenProcessor.initial false).enter 1 { TokenProcessor.plainEntry with channel := .stream }).apply
    byteDecoder (.call (fun _ => 0) (.ok (some ([⟨1, 0⟩], [], [], 1))) none)).getD
    (TokenProcessor.initial false)

/-- Its stream counts the one token and hands on its text, that of the end-of-sequence token. -/
theorem eosStreamed_streamRead :
    (ResponseStream.read byteDecoder TokenProcessor.plainEntry.request
        (eosStreamed.sent 1)).1.tokenCount.toNat = 1 ∧
      itemsText (ResponseStream.read byteDecoder TokenProcessor.plainEntry.request
        (eosStreamed.sent 1)).2 = [0] ∧
      (ResponseStream.read byteDecoder TokenProcessor.plainEntry.request
        (eosStreamed.sent 1)).1.output.intoString byteDecoder = [0] :=
  have admitted : Run byteDecoder (fun _ => True) [.enter 1 { TokenProcessor.plainEntry with channel := .stream }]
      ((TokenProcessor.initial false).enter 1 { TokenProcessor.plainEntry with channel := .stream }) :=
    .step (.start false) ⟨rfl, rfl, rfl, rfl, rfl, rfl⟩ trivial rfl
  have run : Run byteDecoder (fun _ => True) [.enter 1 { TokenProcessor.plainEntry with channel := .stream },
      .call (fun _ => 0) (.ok (some ([⟨1, 0⟩], [], [], 1))) none] eosStreamed :=
    .step admitted trivial trivial rfl
  run_streamRead byteDecoder_incremental run 1 { TokenProcessor.plainEntry with channel := .stream }
    _ _ rfl rfl rfl

end Batching
