/-
**What the caller of a unary request receives.**

`infer`, and each future `infer_batch` returns, wait for the one message on a unary request's
channel (lines 99-102 and 118-121): an error becomes a `GenerationError` with its text, and a
response goes through `ensure_decoded(true)`, which turns its token records and input tokens into
texts and, unless the batching loop already decoded the output, appends the decoding of the
response's token ids to its text. The loop decodes a unary request's output itself exactly when
the request has stop sequences, since it needs the text to match them, and flushes its
incremental decoder at the terminal response; otherwise the response carries the input prefix and
the ids. `Decoder::decode` is not in the batcher's source: it is a function `decode` here.

* `InferResponse.ensureDecoded` and `inferResult`: the caller's side; `TokenInfos.toFinalVec`:
  the token texts read off a decoded response;
* `InferResponse.unary_text`, `Entry.finalResponse_unary_text`: the text of a unary terminal
  response, and whether it is decoded;
* `Slot.Texts`, with one lemma per slot step: an entry without stop sequences has no decoder, and
  every unary response holds the input prefix, then the flushed decoder's text when the request
  has stop sequences;
* **`run_inferResult`**: over every run, what the caller of a unary request gets from a response
  on its channel: the input prefix, then the decoding of every token returned for the request, in
  order, decoded once (by `Decoder::decode` when the request has no stop sequences, by the loop's
  incremental decoder otherwise), with the texts of those tokens' records when asked for; it
  fails only where `Decoder::decode` fails.
-/

import Batching.Accumulation

namespace Batching

variable {σ : Type} {dec : Decoder σ}

/-! ### The caller's side -/

namespace InferResponse

/-- `InferResponse::decode_output_text` (lines 888-898), over `decode`, which stands for
`Decoder::decode(ids, first, skip_special_tokens)`: unless the text is decoded, the token ids are
taken and their decoding appended to it. -/
def decodeOutputText (decode : List Nat → Bool → Bool → Except InferError Text) (first : Bool)
    (ir : InferResponse) : Except InferError InferResponse :=
  if ir.isDecoded then .ok ir
  else
    (fun text => { ir with
        outputText := ir.outputText ++ text, tokenIds := [], isDecoded := true }) <$>
      decode ir.tokenIds first true

/-- `InferResponse::decode_token_infos` (lines 900-903). -/
def decodeTokenInfos (idToToken : Nat → Text) (ir : InferResponse) : InferResponse :=
  { ir with tokens := ir.tokens.decode idToToken, inTokens := ir.inTokens.decode idToToken }

/-- `InferResponse::ensure_decoded` (lines 905-910). -/
def ensureDecoded (decode : List Nat → Bool → Bool → Except InferError Text) (dec : Decoder σ)
    (first : Bool) (ir : InferResponse) : Except InferError InferResponse :=
  (ir.decodeTokenInfos dec.idToToken).decodeOutputText decode first

end InferResponse

/-- `TokenInfos::to_final_vec` (lines 760-765): the token texts, none while they are ids. -/
def TokenInfos.toFinalVec : TokenInfos → List Text
  | .withStrings texts => texts
  | .withIds _ => []

/-- What `infer` (lines 99-102), and each future `infer_batch` returns (lines 118-121), make of
the message on a unary request's channel. -/
def inferResult (decode : List Nat → Bool → Bool → Except InferError Text) (dec : Decoder σ) :
    Reply → Except InferError InferResponse
  | .ok ir => ir.ensureDecoded decode dec true
  | .error err => .error (.generationError err.toString)

/-! ### What a unary response holds -/

/-- The input text `InferResponse::unary` puts first when the request asks for it (lines
845-850), with `"\n\n"` after it for a seq2seq model. -/
def GenerateRequest.inputPrefix (dec : Decoder σ) (request : GenerateRequest) : Text :=
  if request.parameters.includeInputText then
    request.inputs ++ (if dec.seq2seq then [10, 10] else [])
  else []

/-- A unary response holds the input prefix, then its entry's decoder output if it has one, and
is decoded exactly then. -/
theorem InferResponse.unary_text {e : Entry σ} {reason : StopReason} {now : Nat}
    {r : InferResponse} (built : InferResponse.unary dec e reason now = some r) :
    r.outputText = e.request.inputPrefix dec ++ (e.output.map dec.output).getD [] ∧
      r.isDecoded = e.output.isSome := by
  have glue : ∀ text piece : Text, (if text.isEmpty then piece else text ++ piece) = text ++ piece
    | [], _ => rfl
    | _ :: _, _ => rfl
  unfold InferResponse.unary at built
  obtain ⟨times, -, rfl⟩ := Option.map_eq_some'.mp built
  cases e.output with
  | none => simp [GenerateRequest.inputPrefix]
  | some d => exact ⟨glue _ _, rfl⟩

/-- **The text of a unary terminal response**: the input prefix, then the text of the entry's
decoder once flushed, when a decoded piece came with the decoder. -/
theorem Entry.finalResponse_unary_text {now : Nat} {e : Entry σ} {output : Token}
    {text : Option Text} {reason : StopReason} {r : InferResponse} (unary : e.channel = .unary)
    (decoding : text.isSome = e.output.isSome)
    (answered : e.finalResponse dec now output text reason = some (.ok r)) :
    r.outputText = e.request.inputPrefix dec ++
        (e.output.map fun d => dec.output (dec.flush d).1).getD [] ∧
      r.isDecoded = e.output.isSome := by
  have terminal : ∀ e' : Entry σ, e'.channel = .unary → ∀ text',
      e'.terminal dec now output text' reason = some (.ok r) →
        InferResponse.unary dec e' reason now = some r := fun e' unary' text' built => by
    unfold terminal at built
    rw [unary'] at built
    obtain ⟨r', built', same⟩ := Option.map_eq_some'.mp built
    cases same
    exact built'
  unfold finalResponse at answered
  cases text with
  | none =>
    cases present : e.output with
    | some d => rw [present] at decoding; cases decoding
    | none =>
      have := InferResponse.unary_text (terminal e unary none answered)
      simpa [present] using this
  | some t =>
    cases present : e.output with
    | none => rw [present] at answered; cases answered
    | some d =>
      rw [present] at answered
      simp only at answered
      rcases flushed : dec.flush d with ⟨d', err | rest⟩ <;> rw [flushed] at answered <;>
        dsimp only at answered
      · cases answered
      · have := InferResponse.unary_text (terminal { e with output := some d' } unary _ answered)
        simpa [flushed] using this

/-- Recording and decoding a token of an entry without stop sequences, and without a decoder,
gives no decoder and no text. -/
theorem Entry.decode_record_plain {e e' : Entry σ} {output : Token} {text : Option Text}
    (plain : e.params.stopSeqs = []) (undecoded : e.output = none)
    (decoded : (e.record dec output).decode dec output.tokenId = .ok (e', text)) :
    e'.output = none ∧ text = none := by
  have recorded : (e.record dec output).output = none := by
    simp [Entry.record_eq, plain, undecoded]
  rcases Entry.decode_eq_ok decoded with ⟨-, rfl, rfl⟩ | ⟨d, -, -, found, -⟩
  · exact ⟨recorded, rfl⟩
  · rw [recorded] at found
    cases found

/-- A decoded piece comes exactly with a decoder. -/
theorem Entry.decode_text_isSome {e e' : Entry σ} {tokenId : Nat} {text : Option Text}
    (decoded : e.decode dec tokenId = .ok (e', text)) : text.isSome = e'.output.isSome := by
  rcases Entry.decode_eq_ok decoded with ⟨none, rfl, rfl⟩ | ⟨-, -, -, -, -, rfl, rfl⟩
  · simp [none]
  · rfl

/-- What a unary response to the request admitted as `e₀` holds after the tokens `returned`:
the input prefix, then, when the request has stop sequences, the text of the loop's decoder fed
their ids and flushed; it is decoded exactly then. -/
structure InferResponse.UnaryText (dec : Decoder σ) (e₀ : Entry σ) (returned : List Token)
    (r : InferResponse) : Prop where
  text : r.outputText = e₀.request.inputPrefix dec ++
    if e₀.params.stopSeqs = [] then []
    else dec.output (dec.flush (dec.feed (returned.map Token.tokenId))).1
  decoded : r.isDecoded = true ↔ e₀.params.stopSeqs ≠ []

/-- What a slot holds for the caller of the request admitted as `e₀`, given the tokens `returned`
for it: what it accumulates, no decoder without stop sequences, and the text of every unary
response. -/
structure Slot.Texts (dec : Decoder σ) (e₀ : Entry σ) (returned : List Token) (s : Slot σ) :
    Prop where
  accumulates : s.Accumulates dec e₀ returned
  plain : e₀.params.stopSeqs = [] → ∀ e, s.entry = some e → e.output = none
  texts : e₀.channel = .unary → ∀ r, .ok r ∈ s.sent → r.UnaryText dec e₀ returned

namespace Slot.Texts

variable {e₀ : Entry σ} {returned : List Token} {s s' : Slot σ}

/-- Errors and messages on a stream keep the unary responses as they are. -/
theorem texts_append (slot : s.Texts dec e₀ returned) {sent : List Reply}
    (quiet : e₀.channel = .unary → ∀ r, .ok r ∉ sent) :
    e₀.channel = .unary → ∀ r, .ok r ∈ s.sent ++ sent → r.UnaryText dec e₀ returned := by
  intro unary r member
  rcases List.mem_append.mp member with old | new
  · exact slot.texts unary r old
  · exact absurd new (quiet unary r)

/-- Once the entry has left after errors, only the responses are left to keep. -/
theorem vacant (slot : s.Texts dec e₀ returned) {sent : List Reply} {s' : Slot σ}
    (accumulates : s'.Accumulates dec e₀ returned) (gone : s'.entry = none)
    (errors : s'.sent = s.sent ++ sent) (quiet : ∀ r, .ok r ∉ sent) :
    s'.Texts dec e₀ returned :=
  ⟨accumulates, fun _ _ found => (by rw [gone] at found; cases found),
    fun unary r member => slot.texts_append (fun _ => quiet) unary r (errors ▸ member)⟩

theorem onInput (slot : s.Texts dec e₀ returned) {tokens : List Token}
    (done : s.onInput tokens = some s') : s'.Texts dec e₀ returned := by
  have accumulates := slot.accumulates.onInput done
  obtain ⟨e, present, -, ⟨stream, rfl⟩ | ⟨-, rfl⟩⟩ := onInput_eq_some done
  · obtain ⟨-, channel, -⟩ := slot.accumulates.entry e present
    refine ⟨accumulates, slot.plain, slot.texts_append fun unary => ?_⟩
    rw [← channel, stream] at unary
    cases unary
  · refine ⟨accumulates, fun plain e' found => ?_, slot.texts⟩
    cases found
    exact slot.plain plain e present

/-- **One generated token keeps what the slot holds for the caller**, with the token appended:
an entry without stop sequences stays without a decoder, and the terminal response of a unary
entry holds the input prefix, then, with stop sequences, its decoder's flushed text. -/
theorem onToken (slot : s.Texts dec e₀ returned) {now : Nat} {output : Token}
    (done : s.onToken dec now output = some s') :
    s'.Texts dec e₀ (returned ++ [output]) := by
  have accumulates := slot.accumulates.onToken done
  obtain ⟨e, outcome, present, stepped, rfl⟩ := onToken_eq_some done
  obtain ⟨request, channel, room, counted⟩ := slot.accumulates.entry e present
  have params : e.params = e₀.params := by rw [Entry.params, request]
  have silent := slot.accumulates.silent (by simp [present])
  cases outcome with
  | keep e' sent =>
    obtain ⟨text, decoded, -, answered⟩ := Entry.onToken_keep stepped
    have frame := Entry.onToken_keep_frame stepped
    refine ⟨accumulates, fun plain e'' found => ?_, fun unary r member => ?_⟩
    · cases found
      exact (Entry.decode_record_plain (params ▸ plain) (slot.plain plain e present) decoded).1
    · rcases answered with ⟨stream, -⟩ | ⟨-, -, rfl⟩
      · rw [frame.2, channel, unary] at stream
        cases stream
      · simp [Slot.after, silent unary] at member
  | remove sent =>
    refine ⟨accumulates, fun _ _ found => (by cases found), fun unary r member => ?_⟩
    simp only [Slot.after, silent unary, List.nil_append] at member
    rw [← channel] at unary
    rcases Entry.onToken_remove stepped with
      ⟨err, -, rfl⟩ | ⟨e', text, decoded, ⟨reason, r', -, -, final, rfl⟩ | ⟨-, -, ⟨stream, rfl⟩ | ⟨-, -, rfl⟩⟩⟩
    · simp at member
    · obtain rfl := List.mem_singleton.mp member
      have next := counted.decode_record room decoded
      obtain ⟨request', channel', -⟩ := Entry.decode_record decoded
      have params' : e'.params = e₀.params := by rw [Entry.params, request', request]
      obtain ⟨said, flag⟩ := Entry.finalResponse_unary_text (channel'.trans unary)
        (Entry.decode_text_isSome decoded) final
      rw [request', request] at said
      by_cases plain : e₀.params.stopSeqs = []
      · have none := (Entry.decode_record_plain (params ▸ plain)
          (slot.plain plain e present) decoded).1
        exact ⟨by simp [said, none, plain], by simp [flag, none, plain]⟩
      · have feed := next.decoder (params' ▸ plain) (by simp)
        exact ⟨by simp [said, feed, plain], by simp [flag, feed, plain]⟩
    · rw [(Entry.decode_record ‹_›).2.1, unary] at stream
      cases stream
    · simp at member

theorem onError (slot : s.Texts dec e₀ returned) {message : String}
    (done : s.onError message = some s') : s'.Texts dec e₀ returned := by
  have accumulates := slot.accumulates.onError done
  obtain ⟨e, -, rfl⟩ := onError_eq_some done
  exact slot.vacant accumulates rfl rfl (by simp)

theorem onFailure (slot : s.Texts dec e₀ returned) (error : ClientError) (keep : Bool) :
    (s.onFailure error keep).Texts dec e₀ returned := by
  have accumulates := slot.accumulates.onFailure error keep
  unfold Slot.onFailure at accumulates ⊢
  split
  · exact slot.vacant (by simpa [*] using accumulates) rfl rfl (by simp)
  · exact slot

/-- An admitted request's slot holds nothing yet. -/
theorem enter {e : Entry σ} (fresh : e.Fresh) (closed : Bool) :
    Slot.Texts dec e [] ⟨some e, e.firstMessages, closed⟩ := by
  refine ⟨.enter fresh closed, fun _ e' found => ?_, fun unary r member => ?_⟩
  · cases found
    exact fresh.output
  · simp [Entry.firstMessages, unary] at member

theorem onCall (slot : s.Texts dec e₀ returned) {clock : Nat → Nat}
    {result : TokenProcessor.CallResult} {startId : Option Nat} {id : Nat}
    (done : s.onCall dec clock result startId id = some s') :
    s'.Texts dec e₀ (returned ++ (Event.call (σ := σ) clock result startId).returned id) :=
  Slot.onCall_preserves (P := fun returned s => s.Texts dec e₀ returned)
    (fun _ _ _ _ slot => slot.onInput)
    (fun _ _ _ _ _ _ slot => slot.onToken)
    (fun _ _ _ _ slot => slot.onError)
    (fun _ error keep _ slot => slot.onFailure error keep) _ slot done

end Slot.Texts

/-! ### The caller's result -/

/-- The generated text the caller of a unary request is to receive after `tokenIds` were
returned for it: `Decoder::decode` of them all when the request has no stop sequences, and the
text of the loop's incremental decoder, fed them all and flushed, when it has. -/
def generatedText (decode : List Nat → Bool → Bool → Except InferError Text) (dec : Decoder σ)
    (params : Params) (tokenIds : List Nat) : Except InferError Text :=
  if params.stopSeqs = [] then decode tokenIds true true
  else .ok (dec.output (dec.flush (dec.feed tokenIds)).1)

/-- What the caller of the unary request admitted as `e₀` is to receive from the response `r`,
after the tokens `returned` with generated text `text`: the input prefix and the text, the ids
taken when the caller decoded them, and the texts of the token records. -/
def InferResponse.delivered (dec : Decoder σ) (e₀ : Entry σ) (returned : List Token)
    (r : InferResponse) (text : Text) : InferResponse :=
  { r with
    outputText := e₀.request.inputPrefix dec ++ text
    isDecoded := true
    tokenIds := if e₀.params.stopSeqs = [] then [] else returned.map Token.tokenId
    tokens := .withStrings ((if e₀.params.includeGenTokens then returned else []).map
      fun token => dec.idToToken token.tokenId)
    inTokens := r.inTokens.decode dec.idToToken }

/-- **What `ensure_decoded(true)` makes of a unary response** that answers the tokens `returned`
and holds their text. -/
theorem InferResponse.ensureDecoded_of_unaryText
    (decode : List Nat → Bool → Bool → Except InferError Text) {e₀ : Entry σ}
    {returned : List Token} {r : InferResponse} (answers : r.Answers returned e₀.params)
    (holds : r.UnaryText dec e₀ returned) :
    r.ensureDecoded decode dec true =
      (generatedText decode dec e₀.params (returned.map Token.tokenId)).map
        (r.delivered dec e₀ returned) := by
  unfold InferResponse.ensureDecoded InferResponse.decodeOutputText InferResponse.decodeTokenInfos
    generatedText InferResponse.delivered
  by_cases plain : e₀.params.stopSeqs = []
  · have undecoded : r.isDecoded = false := by simpa [plain] using holds.decoded
    simp only [undecoded, Bool.false_eq_true, if_false, plain, if_true, answers.tokenIds,
      answers.tokens, holds.text, List.append_nil, TokenInfos.decode]
    cases decode (returned.map Token.tokenId) true true <;> rfl
  · have decoded : r.isDecoded = true := holds.decoded.mpr plain
    simp only [decoded, if_true, plain, if_false, answers.tokenIds, answers.tokens, holds.text,
      TokenInfos.decode]
    rfl

variable {allowed : Event σ → Prop}

/-- The slot of a request admitted as `e₀` holds the texts of the tokens returned for it, after
every run. -/
theorem Run.textsSlot {history : List (Event σ)} {p : TokenProcessor σ}
    (run : Run dec allowed history p) {id : Nat} {e₀ : Entry σ}
    (found : admitted history id = some e₀) : (p.slot id).Texts dec e₀ (returned history id) :=
  run.admittedSlots (J := fun e₀ returned s => s.Texts dec e₀ returned)
    (fun _ closed fresh _ => .enter fresh closed)
    (fun _ _ _ slot => ⟨⟨slot.accumulates.entry, slot.accumulates.silent,
      slot.accumulates.answers⟩, slot.plain, slot.texts⟩)
    (fun _ _ _ _ _ _ _ _ slot done => slot.onCall done) e₀ found

/-- **What the caller of a unary request receives**, over every run: the input prefix, then the
text of every token returned for the request, decoded once; an error only where
`Decoder::decode` fails. -/
theorem run_inferResult (decode : List Nat → Bool → Bool → Except InferError Text)
    {history : List (Event σ)} {p : TokenProcessor σ} (run : Run dec allowed history p) :
    ∀ id e₀ r, admitted history id = some e₀ → e₀.channel = .unary → .ok r ∈ p.sent id →
      inferResult decode dec (.ok r) =
        (generatedText decode dec e₀.params ((returned history id).map Token.tokenId)).map
          (r.delivered dec e₀ (returned history id)) := by
  intro id e₀ r found unary member
  have slot := run.textsSlot found
  exact InferResponse.ensureDecoded_of_unaryText decode
    (slot.accumulates.answers unary r member) (slot.texts unary r member)

/-- Request 1, with no stop sequence, answered with the end-of-sequence token: its caller gets the
id decoded by `Decoder::decode`. -/
theorem eosAnswered_inferResult :
    inferResult (fun ids _ _ => .ok (ids.map UInt8.ofNat)) byteDecoder
        (.ok { genTokenCount := 1, tokenIds := [0], reason := .eosToken, times := some ⟨0, 0, 0⟩ }) =
      .ok { outputText := [0], isDecoded := true, genTokenCount := 1, tokens := .withStrings [],
            inTokens := .withStrings [], reason := .eosToken, times := some ⟨0, 0, 0⟩ } :=
  have admitted : Run byteDecoder (fun _ => True) [.enter 1 TokenProcessor.plainEntry]
      ((TokenProcessor.initial false).enter 1 TokenProcessor.plainEntry) :=
    .step (.start false) ⟨rfl, rfl, rfl, rfl, rfl, rfl⟩ trivial rfl
  have run : Run byteDecoder (fun _ => True) [.enter 1 TokenProcessor.plainEntry,
      .call (fun _ => 0) (.ok (some ([⟨1, 0⟩], [], [], 1))) none] _ :=
    .step admitted trivial trivial rfl
  run_inferResult _ run 1 _ _ rfl rfl (List.mem_singleton_self _)

end Batching
