/-
**What an entry accumulates.**

`process_next_tokens` counts every token of an entry, keeps the token ids (and, when asked, the
token records) of a unary request for its response, and feeds an entry with stop sequences to
its incremental decoder, created at the first token. Over a run, these are exactly the tokens the
backend returned for the request, in order, whatever the other requests of each result do.

* `Entry.Accumulates`: the count, token ids, token records and decoder of an entry, against the
  tokens returned for it;
* `Entry.Accumulates.decode_record`: one recorded and decoded token keeps it;
* **`run_accumulates`**: after every run, every entry in flight accumulates the tokens returned
  for it, and every response on a unary channel reports as many tokens as token ids, namely the
  ids returned for the request and, when asked, their records.
-/

import Batching.Budget

namespace Batching

variable {σ : Type} {dec : Decoder σ}

/-- The incremental decoder after `tokenIds`, from its start. -/
def Decoder.feed (dec : Decoder σ) (tokenIds : List Nat) : σ :=
  tokenIds.foldl (fun d tokenId => (dec.next d tokenId).1) dec.start

theorem Decoder.feed_append_singleton (tokenIds : List Nat) (tokenId : Nat) :
    dec.feed (tokenIds ++ [tokenId]) = (dec.next (dec.feed tokenIds) tokenId).1 := by
  simp [Decoder.feed, List.foldl_append]

/-- What an entry has accumulated of the tokens `returned` for it. -/
structure Entry.Accumulates (dec : Decoder σ) (e : Entry σ) (returned : List Token) : Prop where
  count : e.generatedTokens.toNat = returned.length
  tokenIds : e.channel = .unary → e.tokenIds = returned.map Token.tokenId
  tokens : e.channel = .unary → e.tokens = if e.params.includeGenTokens then returned else []
  decoder : e.params.stopSeqs ≠ [] → returned ≠ [] →
    e.output = some (dec.feed (returned.map Token.tokenId))

/-- A unary response answering the tokens `returned` of a request with parameters `params`: as
many tokens counted as token ids, these ids, and the records when asked. -/
structure InferResponse.Answers (r : InferResponse) (returned : List Token) (params : Params) :
    Prop where
  count : r.genTokenCount.toNat = r.tokenIds.length
  tokenIds : r.tokenIds = returned.map Token.tokenId
  tokens : r.tokens = .withIds (if params.includeGenTokens then returned else [])

namespace Entry.Accumulates

variable {e e' : Entry σ} {returned : List Token} {output : Token} {text : Option Text}

/-- An entry with stop sequences has its decoder, fed the returned ids, once the token is
recorded. -/
theorem record_output (accumulates : e.Accumulates dec returned)
    (stopping : e.params.stopSeqs ≠ []) :
    (e.record dec output).output = some (dec.feed (returned.map Token.tokenId)) := by
  rw [Entry.record_eq]
  by_cases none : returned = []
  · have zero : e.generatedTokens = 0 := by
      rw [uint32_eq_zero_iff, accumulates.count, none, List.length_nil]
    simp [zero, stopping, none, Decoder.feed]
  · have counted : e.generatedTokens ≠ 0 := by
      rw [ne_eq, uint32_eq_zero_iff, accumulates.count]
      exact fun empty => none (List.eq_nil_of_length_eq_zero empty)
    simp [counted, accumulates.decoder stopping none]

/-- **One recorded and decoded token keeps what the entry accumulates**, with the token
appended, when its count has room for it. -/
theorem decode_record (accumulates : e.Accumulates dec returned)
    (room : returned.length + 1 < UInt32.size)
    (decoded : (e.record dec output).decode dec output.tokenId = .ok (e', text)) :
    e'.Accumulates dec (returned ++ [output]) := by
  obtain ⟨request, channel, counted⟩ := Entry.decode_record decoded
  have frame := Entry.decode_frame decoded
  have params : e'.params = e.params := by rw [Entry.params, request]
  have recorded : e'.tokenIds = (e.record dec output).tokenIds ∧
      e'.tokens = (e.record dec output).tokens := by
    constructor <;> rw [frame]
  refine ⟨?_, fun unary => ?_, fun unary => ?_, fun stopping _ => ?_⟩
  · rw [counted, uint32_toNat_add_one (accumulates.count ▸ room), accumulates.count,
      List.length_append, List.length_singleton]
  · rw [channel] at unary
    simp [recorded.1, Entry.record_eq, unary, accumulates.tokenIds unary]
  · rw [channel] at unary
    rw [params, recorded.2, Entry.record_eq]
    by_cases asked : e.params.includeGenTokens <;> simp [unary, asked, accumulates.tokens unary]
  · rw [params] at stopping
    rcases Entry.decode_eq_ok decoded with ⟨missing, -, -⟩ | ⟨d, d', piece, found, next, -, rfl⟩
    · rw [accumulates.record_output stopping] at missing
      cases missing
    · rw [accumulates.record_output stopping, Option.some_inj] at found
      subst found
      simp [List.map_append, Decoder.feed_append_singleton, next]

end Entry.Accumulates

/-- What accumulation says of the slot of a request admitted as `e₀`, given the tokens
`returned` for it. -/
structure Slot.Accumulates (dec : Decoder σ) (e₀ : Entry σ) (returned : List Token) (s : Slot σ) :
    Prop where
  entry : ∀ e, s.entry = some e → e.request = e₀.request ∧ e.channel = e₀.channel ∧
    returned.length + 1 < UInt32.size ∧ e.Accumulates dec returned
  silent : s.entry.isSome → e₀.channel = .unary → s.sent = []
  answers : e₀.channel = .unary → ∀ r, .ok r ∈ s.sent → r.Answers returned e₀.params

namespace Slot.Accumulates

variable {e₀ : Entry σ} {returned : List Token} {s s' : Slot σ}

/-- Errors and messages on a stream keep the unary responses as they are. -/
theorem answers_append (accumulates : s.Accumulates dec e₀ returned) {sent : List Reply}
    (quiet : e₀.channel = .unary → ∀ r, .ok r ∉ sent) :
    e₀.channel = .unary → ∀ r, .ok r ∈ s.sent ++ sent → r.Answers returned e₀.params := by
  intro unary r member
  rcases List.mem_append.mp member with old | new
  · exact accumulates.answers unary r old
  · exact absurd new (quiet unary r)

theorem onInput (accumulates : s.Accumulates dec e₀ returned) {tokens : List Token}
    (done : s.onInput tokens = some s') : s'.Accumulates dec e₀ returned := by
  obtain ⟨e, present, -, ⟨stream, rfl⟩ | ⟨-, rfl⟩⟩ := onInput_eq_some done
  · obtain ⟨-, channel, -⟩ := accumulates.entry e present
    refine ⟨accumulates.entry, fun _ unary => ?_, accumulates.answers_append fun unary => ?_⟩ <;>
      rw [← channel, stream] at unary <;> cases unary
  · refine ⟨fun e' found => ?_, fun _ unary => accumulates.silent (by simp [present]) unary,
      accumulates.answers⟩
    cases found
    obtain ⟨request, channel, room, counted⟩ := accumulates.entry e present
    exact ⟨request, channel, room, counted.count, counted.tokenIds, counted.tokens, counted.decoder⟩

/-- **One generated token keeps what the slot accumulates**, with the token appended: an entry
that stays has counted, kept and decoded it, and a unary response answers every token. -/
theorem onToken (accumulates : s.Accumulates dec e₀ returned) {now : Nat} {output : Token}
    (done : s.onToken dec now output = some s') :
    s'.Accumulates dec e₀ (returned ++ [output]) := by
  obtain ⟨e, outcome, present, stepped, rfl⟩ := onToken_eq_some done
  obtain ⟨request, channel, room, counted⟩ := accumulates.entry e present
  have silent := accumulates.silent (by simp [present])
  cases outcome with
  | keep e' sent =>
    obtain ⟨text, decoded, -, answered⟩ := Entry.onToken_keep stepped
    have next := counted.decode_record room decoded
    have frame := Entry.onToken_keep_frame stepped
    refine ⟨fun e'' found => ?_, fun _ unary => ?_, fun unary => ?_⟩
    · cases found
      refine ⟨frame.1.trans request, frame.2.trans channel, ?_, next⟩
      have below := Entry.onToken_keep_room stepped
      rw [next.count] at below
      omega
    · rcases answered with ⟨stream, -⟩ | ⟨-, -, rfl⟩
      · rw [frame.2, channel, unary] at stream
        cases stream
      · simp [Slot.after, silent unary]
    · rcases answered with ⟨stream, -⟩ | ⟨-, -, rfl⟩
      · rw [frame.2, channel, unary] at stream
        cases stream
      · simp [Slot.after, silent unary]
  | remove sent =>
    refine ⟨(fun _ found => by cases found), (fun vacant => by cases vacant), fun unary r member => ?_⟩
    simp only [Slot.after, silent unary, List.nil_append] at member
    rw [← channel] at unary
    rcases Entry.onToken_remove stepped with
      ⟨err, -, rfl⟩ | ⟨e', text, decoded, ⟨reason, r', -, -, final, rfl⟩ | ⟨-, -, ⟨stream, rfl⟩ | ⟨-, -, rfl⟩⟩⟩
    · simp at member
    · obtain rfl := List.mem_singleton.mp member
      have next := counted.decode_record room decoded
      obtain ⟨request', channel', -⟩ := Entry.decode_record decoded
      rcases Entry.finalResponse_shape final with ⟨message, impossible⟩ |
        ⟨response, answer, -, count, kept⟩
      · cases impossible
      · cases answer
        obtain ⟨tokenIds, tokens⟩ := kept (channel'.trans unary)
        have params : e'.params = e₀.params := by rw [Entry.params, request', request]
        refine ⟨?_, tokenIds.trans (next.tokenIds (channel'.trans unary)), ?_⟩
        · rw [count, tokenIds, next.count, next.tokenIds (channel'.trans unary), List.length_map]
        · rw [tokens, next.tokens (channel'.trans unary), params]
    · rw [(Entry.decode_record ‹_›).2.1, unary] at stream
      cases stream
    · simp at member

theorem onError (accumulates : s.Accumulates dec e₀ returned) {message : String}
    (done : s.onError message = some s') : s'.Accumulates dec e₀ returned := by
  obtain ⟨e, -, rfl⟩ := onError_eq_some done
  exact ⟨(fun _ found => by cases found), (fun vacant => by cases vacant),
    accumulates.answers_append fun _ _ => by simp⟩

theorem onFailure (accumulates : s.Accumulates dec e₀ returned) (error : ClientError)
    (keep : Bool) : (s.onFailure error keep).Accumulates dec e₀ returned := by
  unfold Slot.onFailure
  split
  · exact ⟨(fun _ found => by cases found), (fun vacant => by cases vacant),
      accumulates.answers_append fun _ _ => by simp⟩
  · exact accumulates

/-- An admitted request has accumulated nothing. -/
theorem enter {e : Entry σ} (fresh : e.Fresh) (closed : Bool) :
    Slot.Accumulates dec e [] ⟨some e, e.firstMessages, closed⟩ := by
  refine ⟨fun e' found => ?_, fun _ unary => ?_, fun unary r member => ?_⟩
  · cases found
    refine ⟨rfl, rfl, by decide, ⟨?_, fun _ => fresh.tokenIds, fun _ => ?_, fun _ none => ?_⟩⟩
    · rw [fresh.generatedTokens]
      rfl
    · rw [fresh.tokens]
      split <;> rfl
    · exact absurd rfl none
  · simp [Entry.firstMessages, unary]
  · simp [Entry.firstMessages, unary] at member

theorem onCall (accumulates : s.Accumulates dec e₀ returned) {clock : Nat → Nat}
    {result : TokenProcessor.CallResult} {startId : Option Nat} {id : Nat}
    (done : s.onCall dec clock result startId id = some s') :
    s'.Accumulates dec e₀ (returned ++ (Event.call (σ := σ) clock result startId).returned id) :=
  Slot.onCall_preserves (P := fun returned s => s.Accumulates dec e₀ returned)
    (fun _ _ _ _ accumulates => accumulates.onInput)
    (fun _ _ _ _ _ _ accumulates => accumulates.onToken)
    (fun _ _ _ _ accumulates => accumulates.onError)
    (fun _ error keep _ accumulates => accumulates.onFailure error keep) _ accumulates done

end Slot.Accumulates

/-- The slot of a request admitted as `e₀` accumulates the tokens returned for it, after every
run. -/
theorem Run.accumulatingSlot {allowed : Event σ → Prop} {history : List (Event σ)}
    {p : TokenProcessor σ} (run : Run dec allowed history p) {id : Nat} {e₀ : Entry σ}
    (found : admitted history id = some e₀) : (p.slot id).Accumulates dec e₀ (returned history id) :=
  run.admittedSlots (J := fun e₀ returned s => s.Accumulates dec e₀ returned)
    (fun _ closed fresh _ => .enter fresh closed)
    (fun _ _ _ accumulates => ⟨accumulates.entry, accumulates.silent, accumulates.answers⟩)
    (fun _ _ _ _ _ _ _ _ accumulates done => accumulates.onCall done) e₀ found

/-- **Every entry in flight accumulates the tokens returned for it**, after every run, and every
unary response counts its token ids, the ids returned for the request. -/
theorem run_accumulates {history : List (Event σ)} {p : TokenProcessor σ}
    (run : Run dec (fun _ => True) history p) :
    (∀ id e, p.entries.get id = some e → e.Accumulates dec (returned history id)) ∧
    ∀ id e₀ r, admitted history id = some e₀ → e₀.channel = .unary → .ok r ∈ p.sent id →
      r.Answers (returned history id) e₀.params := by
  have slots : ∀ id e₀, admitted history id = some e₀ →
      (p.slot id).Accumulates dec e₀ (returned history id) :=
    fun id => run.admittedSlots (J := fun e₀ returned s => s.Accumulates dec e₀ returned)
      (fun _ closed fresh _ => .enter fresh closed)
      (fun _ _ _ accumulates => ⟨accumulates.entry, accumulates.silent, accumulates.answers⟩)
      (fun _ _ _ _ _ _ _ _ accumulates done => accumulates.onCall done)
  refine ⟨fun id e present => ?_, fun id e₀ r found unary => (slots id e₀ found).answers unary r⟩
  cases found : admitted history id with
  | none => rw [(run.unadmitted found).1] at present; cases present
  | some e₀ => exact ((slots id e₀ found).entry e present).2.2.2

/-- After request 1 was admitted and given one token, it has accumulated that token. -/
theorem run_accumulates_one_token :
    (∀ id e, oneTokenRun.entries.get id = some e →
      e.Accumulates byteDecoder (returned [.enter 1 TokenProcessor.plainEntry,
        .call (fun _ => 0) (.ok (some ([⟨1, 7⟩], [], [], 1))) none] id)) ∧
    ∀ id e₀ r, admitted [.enter 1 TokenProcessor.plainEntry,
        .call (fun _ => 0) (.ok (some ([⟨1, 7⟩], [], [], 1))) none] id = some e₀ →
      e₀.channel = .unary → .ok r ∈ oneTokenRun.sent id →
      r.Answers (returned [.enter 1 TokenProcessor.plainEntry,
        .call (fun _ => 0) (.ok (some ([⟨1, 7⟩], [], [], 1))) none] id) e₀.params := by
  have admitted : Run byteDecoder (fun _ => True) [.enter 1 TokenProcessor.plainEntry]
      ((TokenProcessor.initial false).enter 1 TokenProcessor.plainEntry) :=
    .step (.start false) ⟨rfl, rfl, rfl, rfl, rfl, rfl⟩ trivial rfl
  exact run_accumulates (.step admitted trivial trivial rfl)

end Batching
