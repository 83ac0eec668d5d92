/-
**The token processor.**

`TokenProcessor` owns the in-flight map and writes every reply channel. Per backend result
`wrap_future` runs `process_input_tokens`, then `process_next_tokens`, and on a failed call
`send_errors`. Each is modelled with its panics: an `expect`, an `unwrap` or an `assert_eq!`
that fails gives `none`.

`process_next_tokens` is split as the source is: the entry-level work of one generated token
(`Entry.record`, `Entry.decode`, `checkStoppingCriteria`, `Entry.finalResponse`, put together in
`Entry.onToken`) and the map-level loops (`processOutput`, `processError`), which look the entry
up and write back what the token did. The channels are part of the state: `sent` holds, per
request id, every message put on its channel, and `closed` whether the client has dropped the
receiving end.
-/

import Batching.StopCriteria
import Batching.InFlight

namespace Batching

variable {σ : Type}

/-! ### Responses -/

namespace InferResponse

/-- The first message of a stream, sent by `Batcher::infer_stream` before the entry is queued. -/
def streamStart (inputLength : Nat) (request : GenerateRequest) : InferResponse :=
  { inTokenCount := UInt32.ofNat inputLength,
    outputText := if request.parameters.includeInputText then request.inputs else [],
    seed := request.parameters.seed.getD 0 }

/-- `InferResponse::stream_input_info`. -/
def streamInputInfo (inTokens : List Token) : InferResponse :=
  { inTokenCount := UInt32.ofNat inTokens.length, inTokens := .withIds inTokens, isDecoded := true }

/-- `InferResponse::stream_inprog`. -/
def streamInprog (token : Token) (count : UInt32) (text : Option Text) : InferResponse :=
  { isDecoded := text.isSome, outputText := text.getD [], genTokenCount := count,
    tokens := .withIds [token] }

/-- `InferResponse::stream_final`; `none` where `Times::from` panics. -/
def streamFinal (token : Token) (text : Option Text) (e : Entry σ) (reason : StopReason)
    (now : Nat) : Option InferResponse :=
  (Times.ofEntry e now).map fun times =>
    { isDecoded := text.isSome, outputText := text.getD [], genTokenCount := e.generatedTokens,
      tokens := .withIds [token], reason, times := some times, seed := e.params.seed.getD 0 }

/-- `InferResponse::unary`: the input text if asked for (with `"\n\n"` for a seq2seq model), then
the decoder's text; `none` where `Times::from` panics. -/
def unary (dec : Decoder σ) (e : Entry σ) (reason : StopReason) (now : Nat) :
    Option InferResponse :=
  let text : Text :=
    if e.params.includeInputText then e.request.inputs ++ (if dec.seq2seq then [10, 10] else [])
    else []
  let (text, isDecoded) := match e.output with
    | some d => (if text.isEmpty then dec.output d else text ++ dec.output d, true)
    | none => (text, false)
  (Times.ofEntry e now).map fun times =>
    { outputText := text, isDecoded, genTokenCount := e.generatedTokens, tokenIds := e.tokenIds,
      tokens := .withIds e.tokens, inTokens := .withIds e.inputTokens, reason,
      times := some times, inTokenCount := UInt32.ofNat e.inputLength,
      seed := e.params.seed.getD 0 }

end InferResponse

/-! ### One generated token, on its entry -/

/-- What one generated token leaves of its entry. -/
inductive TokenOutcome (σ : Type)
  /-- The entry stays in flight, after `sent` was put on its channel. -/
  | keep (e : Entry σ) (sent : List Reply)
  /-- The entry leaves the map, after `sent` was put on its channel. -/
  | remove (sent : List Reply)

/-- Lines 591-610: a decoder for the first token of an entry with stop sequences, the count, and
for a unary entry the token kept for its response. -/
def Entry.record (dec : Decoder σ) (e : Entry σ) (output : Token) : Entry σ :=
  let e := if e.generatedTokens = 0 ∧ e.params.stopSeqs ≠ [] then { e with output := some dec.start }
    else e
  let e := { e with generatedTokens := e.generatedTokens + 1 }
  match e.channel with
  | .stream => e
  | .unary =>
    { e with tokenIds := e.tokenIds ++ [output.tokenId],
             tokens := if e.params.includeGenTokens then e.tokens ++ [output] else e.tokens }

/-- Lines 612-631: the token fed to the entry's decoder, if it has one, giving the text it
made emissible; a decoding error ends the entry. -/
def Entry.decode (dec : Decoder σ) (e : Entry σ) (tokenId : Nat) :
    Except InferError (Entry σ × Option Text) :=
  match e.output with
  | none => .ok (e, none)
  | some d =>
    match dec.next d tokenId with
    | (d, .ok text) => .ok ({ e with output := some d }, some text)
    | (_, .error err) => .error err

/-- Lines 651-654: `stream_final` for a stream, `unary` otherwise. -/
def Entry.terminal (dec : Decoder σ) (now : Nat) (e : Entry σ) (output : Token)
    (text : Option Text) (reason : StopReason) : Option Reply :=
  match e.channel with
  | .stream => .ok <$> InferResponse.streamFinal output text e reason now
  | .unary => .ok <$> InferResponse.unary dec e reason now

/-- Lines 640-655: the terminal response of an entry that met a stopping criterion, its decoder
flushed first; `none` where an `unwrap` panics. -/
def Entry.finalResponse (dec : Decoder σ) (now : Nat) (e : Entry σ) (output : Token)
    (text : Option Text) (reason : StopReason) : Option Reply :=
  match text with
  | none => e.terminal dec now output none reason
  | some t =>
    match e.output with
    | none => none
    | some d =>
      match dec.flush d with
      | (_, .error err) => some (.error (.generation err.toString))
      | (d, .ok rest) => { e with output := some d }.terminal dec now output (some (t ++ rest)) reason

/-- Lines 584-686 for one generated token of an entry: record it, decode it, check the stopping
criteria, and answer. A stream is sent an in-progress message and is cancelled if its receiver
is gone; a unary entry looks at its receiver every 16 tokens. -/
def Entry.onToken (dec : Decoder σ) (now : Nat) (closed : Bool) (e : Entry σ) (output : Token) :
    Option (TokenOutcome σ) :=
  match (e.record dec output).decode dec output.tokenId with
  | .error err => some (.remove [.error (.generation err.toString)])
  | .ok (e, text) => do
    let reason ← checkStoppingCriteria dec now e output.tokenId text
    if reason ≠ .notFinished then
      (fun response => .remove [response]) <$> e.finalResponse dec now output text reason
    else
      match e.channel with
      | .stream =>
        let response : Reply := .ok (InferResponse.streamInprog output e.generatedTokens text)
        some (if closed then .remove [response] else .keep e [response])
      | .unary => some (if e.generatedTokens % 16 = 0 ∧ closed then .remove [] else .keep e [])

/-- The message `process_next_tokens` sends for a per-request error (lines 698-702). -/
def errorMessage (generatedTokens : UInt32) (message : String) : String :=
  if generatedTokens = 0 then message
  else "Error after generating " ++ toString generatedTokens ++ " tokens: " ++ message

/-! ### The processor -/

/-- `TokenProcessor`: the in-flight map and the generation-health flag, with the reply
channels: what was sent on request `id`'s channel, oldest first, and whether its receiver is
gone. -/
structure TokenProcessor (σ : Type) where
  entries : InFlight (Entry σ)
  generationHealth : Bool
  sent : Nat → List Reply
  closed : Nat → Bool

namespace TokenProcessor

variable (p : TokenProcessor σ)

/-- Put `messages` on request `id`'s channel. -/
def send (id : Nat) (messages : List Reply) : TokenProcessor σ :=
  { p with sent := fun k => if k = id then p.sent k ++ messages else p.sent k }

@[simp] theorem send_entries (id : Nat) (messages : List Reply) :
    (p.send id messages).entries = p.entries := rfl

@[simp] theorem send_closed (id : Nat) (messages : List Reply) :
    (p.send id messages).closed = p.closed := rfl

@[simp] theorem send_sent (id k : Nat) (messages : List Reply) :
    (p.send id messages).sent k = if k = id then p.sent k ++ messages else p.sent k := rfl

/-- The outputs loop of `process_next_tokens` for one token (lines 585-685): the entry is looked
up (`expect`), and what the token did is written back. The ids of removed entries are
collected. -/
def processOutput (dec : Decoder σ) (clock : Nat → Nat) (state : TokenProcessor σ × List Nat)
    (output : Token) : Option (TokenProcessor σ × List Nat) := do
  let (p, completed) := state
  let id := output.requestId
  let e ← p.entries.get id
  match ← e.onToken dec (clock id) (p.closed id) output with
  | .keep e sent => pure ({ p.send id sent with entries := p.entries.insert id e }, completed)
  | .remove sent => pure ({ p.send id sent with entries := p.entries.remove id }, completed ++ [id])

/-- The errors loop of `process_next_tokens` for one per-request error (lines 690-705). -/
def processError (state : TokenProcessor σ × List Nat) (error : GenerateError) :
    Option (TokenProcessor σ × List Nat) := do
  let (p, completed) := state
  let id := error.requestId
  let e ← p.entries.get id
  pure ({ p.send id [.error (.generation (errorMessage e.generatedTokens error.message))] with
    entries := p.entries.remove id }, completed ++ [id])

/-- `TokenProcessor::process_next_tokens`: both loops, then `None` when as many requests
completed as there were outputs, and the completed ids otherwise (line 709). -/
def processNextTokens (dec : Decoder σ) (clock : Nat → Nat) (outputs : List Token)
    (errors : List GenerateError) : Option (TokenProcessor σ × Option (List Nat)) := do
  let requestCount := outputs.length
  let state ← outputs.foldlM (processOutput dec clock) (p, [])
  let (p, completed) ← errors.foldlM processError state
  pure (p, if completed.length = requestCount then none else some completed)

/-- The loop of `process_input_tokens` for one request (lines 561-573). -/
def processInput (input : InputTokens) : Option (TokenProcessor σ) := do
  let id := input.requestId
  let e ← p.entries.get id
  if e.generatedTokens ≠ 0 then none
  else
    match e.channel with
    | .stream => pure (p.send id [.ok (InferResponse.streamInputInfo input.tokens)])
    | .unary => pure { p with entries := p.entries.insert id { e with inputTokens := input.tokens } }

/-- `TokenProcessor::process_input_tokens`. -/
def processInputTokens (inputs : List InputTokens) : Option (TokenProcessor σ) :=
  inputs.foldlM processInput p

/-- Whether `send_errors` keeps entry `id`: with a start id, exactly the older entries. -/
def keepOnError (startId : Option Nat) (id : Nat) : Bool :=
  match startId with
  | some sid => id < sid
  | none => false

/-- `TokenProcessor::send_errors`: every entry it does not keep is sent the error and removed. -/
def sendErrors (error : ClientError) (startId : Option Nat) : TokenProcessor σ :=
  { p with
    entries := p.entries.retain (keepOnError startId)
    sent := fun k => if (p.entries.get k).isSome ∧ keepOnError startId k = false
      then p.sent k ++ [.error error] else p.sent k }

/-- What a backend call returns: `Ok(Some((generated_tokens, input_tokens, errors,
next_batch_id)))`, `Ok(None)` when no request is left, or `Err`. -/
abbrev CallResult := Except ClientError
  (Option (List Token × List InputTokens × List GenerateError × Nat))

/-- `TokenProcessor::wrap_future` on the result of a call; `start_id` is the first request of a
batch that does not hold every entry. -/
def wrapFuture (dec : Decoder σ) (clock : Nat → Nat) (result : CallResult)
    (startId : Option Nat) : Option (TokenProcessor σ × Option CachedBatch) :=
  match result with
  | .ok (some (generated, inputs, errors, nextBatchId)) => do
    let p ← p.processInputTokens inputs
    let (p, completed) ← p.processNextTokens dec clock generated errors
    pure ({ p with generationHealth := true }, some ⟨nextBatchId, completed⟩)
  | .ok none => some (p, none)
  | .error err => some ({ p with generationHealth := false }.sendErrors err startId, none)

end TokenProcessor

end Batching
