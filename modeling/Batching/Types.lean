/-
**The values the batcher moves.**

`router/src/batcher.rs` takes requests from the queue into an in-flight map, hands them to a
sharded backend one decoding step at a time, and writes what comes back to one reply channel per
request. This module fixes those values, under the names the source gives them:

* a request and its parameters (`Params`, `GenerateRequest`), and what a backend call returns
  for it (`Token`, `InputTokens`, `GenerateError`, `CachedBatch`);
* the two error types with the texts they display (`ClientError`, `InferError`);
* the messages put on a reply channel (`InferResponse`, `TokenInfos`, `Times`, `Reply`);
* an in-flight entry (`Entry`), which holds exactly one reply channel (`ReplyChannel`);
* the tokenizer the batcher is handed (`Decoder`). Its code is outside the batcher, so its
  incremental decoder is a parameter: a state, and what `next`, `flush` and `output` do to it.

A Rust `String` is seen as its bytes (`Text`): the batcher appends, measures and compares
strings only bytewise. A `u32` of the source is a `UInt32`, so that its wrap-around is the
source's; ids, lengths and instants are natural numbers.
-/

import Mathlib.Data.List.Basic

namespace Batching

/-- The bytes of a Rust `String`. -/
abbrev Text := List UInt8

/-- `pb::fmaas::StopReason`; its default is `NotFinished`. -/
inductive StopReason
  | notFinished
  | maxTokens
  | eosToken
  | cancelled
  | timeLimit
  | stopSequence
  | tokenLimit
  | error
  deriving DecidableEq, Repr

/-! ### `u32` arithmetic -/

theorem uint32_lt_iff_toNat_lt {a b : UInt32} : a < b ↔ a.toNat < b.toNat := Iff.rfl

theorem uint32_le_iff_toNat_le {a b : UInt32} : a ≤ b ↔ a.toNat ≤ b.toNat := Iff.rfl

theorem uint32_lt_of_lt_of_le {a b c : UInt32} (ab : a < b) (bc : b ≤ c) : a < c :=
  Nat.lt_of_lt_of_le ab bc

/-- Adding one to a `u32` below its maximum does not wrap. -/
theorem uint32_toNat_add_one {a : UInt32} (below : a.toNat + 1 < UInt32.size) :
    (a + 1).toNat = a.toNat + 1 := by
  show (a.toBitVec + 1#32).toNat = _
  rw [BitVec.toNat_add]
  exact Nat.mod_eq_of_lt below

theorem uint32_eq_zero_iff {a : UInt32} : a = 0 ↔ a.toNat = 0 :=
  ⟨fun zero => zero ▸ rfl, fun zero => UInt32.toNat.inj zero⟩

/-! ### What a backend call returns -/

/-- `text_generation_client::Token`: the generated token of one request. Its log-probability,
rank and top tokens are only copied into the external token info, and are left out. -/
structure Token where
  requestId : Nat
  tokenId : Nat
  deriving DecidableEq, Repr

/-- `InputTokens`: the prompt tokens of one request, returned by its first step. -/
structure InputTokens where
  requestId : Nat
  tokens : List Token
  deriving DecidableEq, Repr

/-- `GenerateError`: a failure of one request inside a step that otherwise succeeded. -/
structure GenerateError where
  requestId : Nat
  message : String
  deriving DecidableEq, Repr

/-- `CachedBatch`: the backend's handle on a batch, with the ids the router saw complete
(`RequestsStatus.completed_ids`), or no status when every request of it completed. -/
structure CachedBatch where
  batchId : Nat
  status : Option (List Nat)
  deriving DecidableEq, Repr

/-! ### Errors -/

/-- `text_generation_client::ClientError`. -/
inductive ClientError
  | connection (message : String)
  | generation (message : String)
  deriving DecidableEq, Repr

/-- The text `ClientError` displays. -/
def ClientError.toString : ClientError → String
  | .connection message => "Could not connect to Text Generation server: " ++ message
  | .generation message => message

/-- `InferError`. -/
inductive InferError
  | generationError (message : String)
  | detokenizationError (message : String)
  | requestQueueFull
  deriving DecidableEq, Repr

/-- The text `InferError` displays. -/
def InferError.toString : InferError → String
  | .generationError message => "Request failed during generation: " ++ message
  | .detokenizationError message => "Request failed during detokenization: " ++ message
  | .requestQueueFull => "Server too busy"

/-! ### Requests -/

/-- The request parameters the batcher reads. The sampling and length-penalty settings are
only forwarded to the backend, and are left out. -/
structure Params where
  minNewTokens : UInt32
  maxNewTokens : UInt32
  maxIsTokenLimit : Bool
  stopSeqs : List Text
  deadline : Option Nat
  seed : Option Nat
  includeInputText : Bool
  includeGenTokens : Bool
  deriving DecidableEq, Repr

/-- `GenerateRequest`: the prompt and its parameters. -/
structure GenerateRequest where
  inputs : Text
  parameters : Params
  deriving DecidableEq, Repr

/-! ### The tokenizer -/

/-- Modelled from the spec: `crate::decoder::Decoder` with its `IncrementalDecoderWrapper`
(component 4.B). The incremental decoder is a state of type `σ`; `next` and `flush` change it and
return the text that became emissible, or a detokenization error. -/
structure Decoder (σ : Type) where
  eosTokenId : Nat
  seq2seq : Bool
  /-- `IncrementalDecoderWrapper::for_decoder(&decoder, decoder.seq2seq)`. -/
  start : σ
  /-- `next(token_id, decoder)`. -/
  next : σ → Nat → σ × Except InferError Text
  /-- `flush(decoder)`. -/
  flush : σ → σ × Except InferError Text
  /-- `output()`, which `into_string()` returns as well. -/
  output : σ → Text
  /-- `id_to_token(token_id)`. -/
  idToToken : Nat → Text

/-! ### Entries -/

/-- The one reply channel of an entry: a single-shot `response_tx` for a unary request, an
unbounded `stream_tx` for a streaming one. -/
inductive ReplyChannel
  | unary
  | stream
  deriving DecidableEq, Repr

/-- Modelled from the spec: `queue::Entry`, one request in flight, with the fields the batcher
reads. The reply channel is a tag: the sender itself is the channel's state
(`TokenProcessor.sent`, `TokenProcessor.closed`). -/
structure Entry (σ : Type) where
  request : GenerateRequest
  inputLength : Nat
  queueTime : Nat
  batchTime : Option Nat
  generatedTokens : UInt32
  tokenIds : List Nat
  tokens : List Token
  inputTokens : List Token
  output : Option σ
  channel : ReplyChannel
  deriving DecidableEq, Repr

/-- The parameters of an entry's request. -/
abbrev Entry.params {σ : Type} (e : Entry σ) : Params := e.request.parameters

/-- An entry as the queue admits it: nothing generated, nothing accumulated, its batch time
stamped. -/
structure Entry.Fresh {σ : Type} (e : Entry σ) : Prop where
  generatedTokens : e.generatedTokens = 0
  tokenIds : e.tokenIds = []
  tokens : e.tokens = []
  output : e.output = none
  batchTime : e.batchTime.isSome

/-! ### Responses -/

/-- `Times`: queued, generation start, generation end. -/
structure Times where
  queued : Nat
  start : Nat
  «end» : Nat
  deriving DecidableEq, Repr

/-- `Times::from(&entry)` at instant `now`; `none` where `batch_time.unwrap()` panics. -/
def Times.ofEntry {σ : Type} (e : Entry σ) (now : Nat) : Option Times :=
  e.batchTime.map fun start => ⟨e.queueTime, start, now⟩

/-- `TokenInfos`: token records as returned, or decoded to their texts. -/
inductive TokenInfos
  | withIds (tokens : List Token)
  | withStrings (texts : List Text)
  deriving DecidableEq, Repr

/-- `TokenInfos::clear`. -/
def TokenInfos.clear : TokenInfos → TokenInfos
  | .withIds _ => .withIds []
  | .withStrings _ => .withStrings []

/-- `TokenInfos::is_empty`. -/
def TokenInfos.isEmpty : TokenInfos → Bool
  | .withIds tokens => tokens.isEmpty
  | .withStrings texts => texts.isEmpty

/-- `TokenInfos::decode`: token ids to their texts. -/
def TokenInfos.decode (idToToken : Nat → Text) : TokenInfos → TokenInfos
  | .withIds tokens => .withStrings (tokens.map fun token => idToToken token.tokenId)
  | .withStrings texts => .withStrings texts

/-- `InferResponse`, with the defaults of `..Default::default()`. -/
structure InferResponse where
  outputText : Text := []
  isDecoded : Bool := false
  genTokenCount : UInt32 := 0
  tokenIds : List Nat := []
  tokens : TokenInfos := .withIds []
  inTokens : TokenInfos := .withIds []
  reason : StopReason := .notFinished
  inTokenCount : UInt32 := 0
  times : Option Times := none
  seed : Nat := 0
  deriving DecidableEq, Repr

/-- A message on a reply channel: `Result<InferResponse, ClientError>`. -/
abbrev Reply := Except ClientError InferResponse

end Batching
