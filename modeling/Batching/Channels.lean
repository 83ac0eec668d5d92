/-
**The reply-channel protocol.**

Every request holds one reply channel. What is sent on it follows a small automaton
(`Protocol`): a unary request gets its terminal message alone; a stream gets the first message of
`infer_stream`, at most one input-info message before its first token, in-progress messages
counting `1, 2, ..., k`, then at most one terminal message, an error or a response with a stop
reason counting `k + 1`. Nothing leaves the terminal phase, so nothing is sent after a terminal
message.

* `Slot.AtPhase`: a slot's messages follow the protocol to a phase that matches its entry;
  between the input tokens and the generated tokens of one result a stream may stand after its
  input-info message (`midCall`);
* `Slot.AtPhase.onToken`, `onError`, `onInput`, `onFailure`: the slot steps, each from and to
  such a phase;
* **`run_followsProtocol`**: over every run whose results name their ids once per list and name
  the ids of their input tokens among their outputs or errors, the messages on each request's
  channel follow the protocol of its channel kind, to the phase of its entry while in flight, and
  to the terminal phase after it leaves, unless its receiver was closed when it left.
-/

import Batching.Runs
import Batching.Completion

namespace Batching

variable {σ : Type} {dec : Decoder σ}

/-! ### The protocol -/

/-- Where a reply channel is in its protocol. -/
inductive Phase
  /-- Nothing sent: a unary request before its answer. -/
  | idle
  /-- A stream's first message was sent. -/
  | opened
  /-- A stream's first message and its input-info message were sent. -/
  | informed
  /-- A stream's in-progress messages counted `1, ..., k` so far. -/
  | streaming (k : Nat)
  /-- The terminal message was sent. -/
  | finished
  deriving DecidableEq, Repr

/-- How many in-progress messages a stream's channel has had, where it may have more. -/
def Phase.tokens : Phase → Option Nat
  | .opened | .informed => some 0
  | .streaming k => some k
  | .idle | .finished => none

/-- A terminal message: an error, or a response with a stop reason that counts `n` tokens. -/
def Reply.IsTerminal (n : Nat) : Reply → Prop
  | .error _ => True
  | .ok r => r.reason ≠ .notFinished ∧ r.genTokenCount.toNat = n

/-- The protocol of a reply channel, one message at a time. -/
inductive Protocol : ReplyChannel → Phase → Reply → Phase → Prop
  /-- A unary request is sent its terminal message alone. -/
  | answer {m : Reply} (n : Nat) : m.IsTerminal n → Protocol .unary .idle m .finished
  /-- `infer_stream` sends the input length and, when asked, the input text. -/
  | start (inputLength : Nat) (request : GenerateRequest) :
      Protocol .stream .idle (.ok (.streamStart inputLength request)) .opened
  /-- Before any generated token, at most one input-info message. -/
  | inputInfo (tokens : List Token) :
      Protocol .stream .opened (.ok (.streamInputInfo tokens)) .informed
  /-- In-progress messages count the tokens `1, 2, ...`. -/
  | progress {phase : Phase} {k : Nat} (token : Token) (count : UInt32) (text : Option Text) :
      phase.tokens = some k → count.toNat = k + 1 →
      Protocol .stream phase (.ok (.streamInprog token count text)) (.streaming (k + 1))
  /-- The terminal message counts one token more than the in-progress messages. -/
  | terminal {phase : Phase} {k : Nat} {m : Reply} :
      phase.tokens = some k → m.IsTerminal (k + 1) → Protocol .stream phase m .finished

/-- Messages, oldest first, that the protocol takes from `phase` to `phase'`. -/
inductive Follows (channel : ReplyChannel) (phase : Phase) : List Reply → Phase → Prop
  | nil : Follows channel phase [] phase
  | snoc {log : List Reply} {middle next : Phase} {m : Reply} :
      Follows channel phase log middle → Protocol channel middle m next →
      Follows channel phase (log ++ [m]) next

/-! ### The protocol of a slot -/

/-- The phase of the channel of an entry in flight. -/
def Entry.phase (e : Entry σ) : Phase :=
  match e.channel with
  | .unary => .idle
  | .stream => if e.generatedTokens = 0 then .opened else .streaming e.generatedTokens.toNat

/-- What the protocol says of an entry in flight whose channel is at `phase`: the phase the
entry's count gives, or, in the middle of a call, a stream's input-info message before its first
token. -/
structure Entry.AtPhase (channel : ReplyChannel) (midCall : Bool) (e : Entry σ) (phase : Phase) :
    Prop where
  channel : e.channel = channel
  room : e.generatedTokens.toNat + 1 < UInt32.size
  phase : phase = e.phase ∨
    midCall = true ∧ e.channel = .stream ∧ e.generatedTokens = 0 ∧ phase = .informed

/-- What the protocol says of a slot whose request was admitted on `channel`, at `phase`. -/
structure Slot.AtPhase (channel : ReplyChannel) (midCall : Bool) (s : Slot σ) (phase : Phase) :
    Prop where
  follows : Follows channel .idle s.sent phase
  entry : ∀ e, s.entry = some e → e.AtPhase channel midCall phase
  gone : s.entry = none → phase = .finished ∨ s.closed = true

/-- A stream in flight may still be sent in-progress and terminal messages, after as many
in-progress messages as its count. -/
theorem Entry.AtPhase.tokens {channel : ReplyChannel} {midCall : Bool} {e : Entry σ}
    {phase : Phase} (at_ : e.AtPhase channel midCall phase) (stream : e.channel = .stream) :
    phase.tokens = some e.generatedTokens.toNat := by
  rcases at_.phase with rfl | ⟨-, -, zero, rfl⟩
  · unfold Entry.phase
    rw [stream]
    by_cases zero : e.generatedTokens = 0
    · simp [zero, Phase.tokens]
    · simp [zero, Phase.tokens]
  · simp [zero, Phase.tokens]

/-- The phase of an entry that has just counted its first or a later token on a stream. -/
theorem Entry.phase_of_counted {e : Entry σ} {k : Nat} (stream : e.channel = .stream)
    (counted : e.generatedTokens.toNat = k + 1) : e.phase = .streaming (k + 1) := by
  have nonzero : e.generatedTokens ≠ 0 := by
    rw [ne_eq, uint32_eq_zero_iff, counted]
    exact Nat.succ_ne_zero k
  simp [Entry.phase, stream, nonzero, counted]

namespace Slot.AtPhase

variable {channel : ReplyChannel} {midCall : Bool} {s s' : Slot σ} {phase : Phase}

/-- A terminal message ends the protocol of an entry's channel. -/
theorem finish {e : Entry σ} (at_ : s.AtPhase channel midCall phase) (present : s.entry = some e)
    {m : Reply} (terminal : m.IsTerminal (e.generatedTokens.toNat + 1)) :
    Follows channel .idle (s.sent ++ [m]) .finished := by
  obtain ⟨same, -, -⟩ := at_.entry e present
  refine .snoc at_.follows ?_
  cases stream : e.channel
  · have idle : phase = .idle := by
      rcases (at_.entry e present).phase with rfl | ⟨-, streamed, -⟩
      · simp [Entry.phase, stream]
      · rw [stream] at streamed
        cases streamed
    rw [← same, stream, idle]
    exact .answer _ terminal
  · rw [← same, stream]
    exact .terminal ((at_.entry e present).tokens stream) terminal

/-- **One generated token keeps the protocol**: an entry that stays has sent a stream the
in-progress message counting it; an entry that leaves has sent its terminal message, or its
receiver is closed. -/
theorem onToken (at_ : s.AtPhase channel midCall phase) {now : Nat} {output : Token}
    (done : s.onToken dec now output = some s') : ∃ phase', s'.AtPhase channel false phase' := by
  obtain ⟨e, outcome, present, stepped, rfl⟩ := onToken_eq_some done
  obtain ⟨same, room, -⟩ := at_.entry e present
  cases outcome with
  | keep e' sent =>
    obtain ⟨text, decoded, -, answered⟩ := Entry.onToken_keep stepped
    obtain ⟨-, channel', counted⟩ := Entry.decode_record decoded
    have next : e'.generatedTokens.toNat = e.generatedTokens.toNat + 1 := by
      rw [counted, uint32_toNat_add_one room]
    have room' := Entry.onToken_keep_room stepped
    rcases answered with ⟨stream, -, rfl⟩ | ⟨unary, -, rfl⟩
    · refine ⟨e'.phase, ⟨.snoc at_.follows ?_, fun e'' found => ?_, (fun vacant => by cases vacant)⟩⟩
      · rw [← same, ← channel', stream, Entry.phase_of_counted stream next]
        exact .progress _ _ _ ((at_.entry e present).tokens (channel'.symm.trans stream)) next
      · cases found
        exact ⟨channel'.trans same, room', .inl rfl⟩
    · have idle : phase = .idle := by
        rcases (at_.entry e present).phase with rfl | ⟨-, streamed, -⟩
        · simp [Entry.phase, ← channel', unary]
        · rw [← channel', unary] at streamed
          cases streamed
      refine ⟨phase, ⟨by simpa [Slot.after] using at_.follows, fun e'' found => ?_,
        (fun vacant => by cases vacant)⟩⟩
      cases found
      exact ⟨channel'.trans same, room', .inl (by simp [idle, Entry.phase, unary])⟩
  | remove sent =>
    rcases Entry.onToken_remove stepped with
      ⟨err, -, rfl⟩ | ⟨e', text, decoded, ⟨reason, r, -, stopped, final, rfl⟩ | ⟨-, closed, answered⟩⟩
    · exact ⟨.finished, at_.finish present trivial, (fun _ found => by cases found),
        fun _ => .inl rfl⟩
    · obtain ⟨-, -, counted⟩ := Entry.decode_record decoded
      refine ⟨.finished, at_.finish present ?_, (fun _ found => by cases found), fun _ => .inl rfl⟩
      rcases Entry.finalResponse_shape final with ⟨message, rfl⟩ | ⟨response, rfl, reasoned, count, -⟩
      · trivial
      · exact ⟨reasoned ▸ stopped, by rw [count, counted, uint32_toNat_add_one room]⟩
    · obtain ⟨-, channel', counted⟩ := Entry.decode_record ‹_›
      rcases answered with ⟨stream, rfl⟩ | ⟨unary, -, rfl⟩
      · refine ⟨.streaming (e.generatedTokens.toNat + 1), .snoc at_.follows ?_,
          (fun _ found => by cases found), fun _ => .inr closed⟩
        rw [← same, ← channel', stream]
        exact .progress _ _ _ ((at_.entry e present).tokens (channel'.symm.trans stream))
          (by rw [counted, uint32_toNat_add_one room])
      · exact ⟨phase, by simpa [Slot.after] using at_.follows, (fun _ found => by cases found),
          fun _ => .inr closed⟩

/-- A per-request error is the terminal message. -/
theorem onError (at_ : s.AtPhase channel midCall phase) {message : String}
    (done : s.onError message = some s') : s'.AtPhase channel false .finished := by
  obtain ⟨e, present, rfl⟩ := onError_eq_some done
  exact ⟨at_.finish present trivial, (fun _ found => by cases found), fun _ => .inl rfl⟩

/-- Input tokens before the first token send a stream its input-info message. -/
theorem onInput (at_ : s.AtPhase channel false phase) {tokens : List Token}
    (done : s.onInput tokens = some s') : ∃ phase', s'.AtPhase channel true phase' := by
  obtain ⟨e, present, zero, ⟨stream, rfl⟩ | ⟨unary, rfl⟩⟩ := onInput_eq_some done
  · obtain ⟨same, room, phased⟩ := at_.entry e present
    have opened : phase = .opened := by
      rcases phased with rfl | ⟨impossible, -⟩
      · simp [Entry.phase, stream, zero]
      · cases impossible
    refine ⟨.informed, .snoc at_.follows ?_, fun e' found => ?_, fun vacant => ?_⟩
    · rw [← same, stream, opened]
      exact .inputInfo tokens
    · rw [present] at found
      cases found
      exact ⟨same, room, .inr ⟨rfl, stream, zero, rfl⟩⟩
    · rw [present] at vacant
      cases vacant
  · refine ⟨phase, at_.follows, fun e' found => ?_, (fun vacant => by cases vacant)⟩
    cases found
    obtain ⟨same, room, phased⟩ := at_.entry e present
    exact ⟨same, room, .inl (phased.resolve_right (by simp))⟩

/-- `send_errors` sends the terminal message to every entry it does not keep. -/
theorem onFailure (at_ : s.AtPhase channel midCall phase) (error : ClientError) (keep : Bool) :
    ∃ phase', (s.onFailure error keep).AtPhase channel midCall phase' := by
  unfold Slot.onFailure
  split
  · rename_i failed
    obtain ⟨e, present⟩ := Option.isSome_iff_exists.mp failed.1
    exact ⟨.finished, at_.finish present trivial, (fun _ found => by cases found), fun _ => .inl rfl⟩
  · exact ⟨phase, at_⟩

end Slot.AtPhase

/-! ### Calls -/

/-- A server result as the backend contract shapes it: each list names a request at most once,
and a request given its input tokens also has a token or an error in the same result. -/
def Event.Named : Event σ → Prop
  | .call _ (.ok (some (generated, inputs, errors, _))) _ =>
    (inputs.map InputTokens.requestId).Nodup ∧ (generated.map Token.requestId).Nodup ∧
      (errors.map GenerateError.requestId).Nodup ∧
      ∀ id ∈ inputs.map InputTokens.requestId,
        id ∈ generated.map Token.requestId ∨ id ∈ errors.map GenerateError.requestId
  | _ => True

/-- With distinct keys, at most one element has key `k`, and one does exactly when `k` is a
key. -/
theorem filter_key_cases {X : Type} {key : X → Nat} {xs : List X} (distinct : (xs.map key).Nodup)
    (k : Nat) : k ∉ xs.map key ∧ xs.filter (key · == k) = [] ∨
      k ∈ xs.map key ∧ ∃ x, xs.filter (key · == k) = [x] := by
  by_cases named : k ∈ xs.map key
  · obtain ⟨x, member, rfl⟩ := List.mem_map.mp named
    exact .inr ⟨named, x, filter_key_eq_singleton distinct member⟩
  · exact .inl ⟨named, filter_key_eq_nil named⟩

namespace Slot.AtPhase

variable {channel : ReplyChannel} {s s' : Slot σ}

/-- Both loops of `process_next_tokens` on a slot: a slot they name ends after its step, one
they do not name is left as it is. -/
theorem afterTokens {midCall : Bool} {phase : Phase} (at_ : s.AtPhase channel midCall phase)
    {clock : Nat → Nat} {generated : List Token} {errors : List GenerateError} {id : Nat}
    (generatedDistinct : (generated.map Token.requestId).Nodup)
    (errorsDistinct : (errors.map GenerateError.requestId).Nodup)
    (done : afterTokens dec clock generated errors id s = some s') :
    (id ∈ generated.map Token.requestId ∨ id ∈ errors.map GenerateError.requestId →
      ∃ phase', s'.AtPhase channel false phase') ∧
    (id ∉ generated.map Token.requestId → id ∉ errors.map GenerateError.requestId → s' = s) := by
  obtain ⟨s₁, tokensDone, errorsDone⟩ := Option.bind_eq_some.mp done
  have afterOutput : (id ∈ generated.map Token.requestId → ∃ phase', s₁.AtPhase channel false phase') ∧
      (id ∉ generated.map Token.requestId → s₁ = s) := by
    rcases filter_key_cases generatedDistinct id with ⟨absent, none⟩ | ⟨named, output, one⟩
    · rw [none] at tokensDone
      exact ⟨fun named => absurd named absent, fun _ => (Option.some.inj tokensDone).symm⟩
    · rw [one] at tokensDone
      simp only [List.foldlM_cons, List.foldlM_nil, Option.bind_eq_bind] at tokensDone
      obtain ⟨s₂, step, rest⟩ := Option.bind_eq_some.mp tokensDone
      cases rest
      exact ⟨fun _ => at_.onToken step, fun absent => absurd named absent⟩
  rcases filter_key_cases errorsDistinct id with ⟨absent, none⟩ | ⟨named, error, one⟩
  · rw [none] at errorsDone
    cases errorsDone
    refine ⟨fun named => afterOutput.1 (named.resolve_right absent), fun absent' _ => afterOutput.2 absent'⟩
  · rw [one] at errorsDone
    simp only [List.foldlM_cons, List.foldlM_nil, Option.bind_eq_bind] at errorsDone
    obtain ⟨s₂, step, rest⟩ := Option.bind_eq_some.mp errorsDone
    cases rest
    refine ⟨fun _ => ⟨.finished, ?_⟩, fun _ absent => absurd named absent⟩
    by_cases output : id ∈ generated.map Token.requestId
    · obtain ⟨phase₁, at₁⟩ := afterOutput.1 output
      exact at₁.onError step
    · rw [afterOutput.2 output] at step
      exact at_.onError step

/-- **A call keeps the protocol** when its result names its ids once per list and names every id
with input tokens among its outputs or errors. -/
theorem onCall {phase : Phase} (at_ : s.AtPhase channel false phase) {clock : Nat → Nat}
    {result : TokenProcessor.CallResult} {startId : Option Nat} {id : Nat}
    (named : (Event.call (σ := σ) clock result startId).Named)
    (done : s.onCall dec clock result startId id = some s') :
    ∃ phase', s'.AtPhase channel false phase' := by
  rcases result with err | _ | ⟨generated, inputs, errors, nextBatchId⟩
  · cases done
    exact at_.onFailure err _
  · cases done
    exact ⟨phase, at_⟩
  · obtain ⟨inputsDistinct, generatedDistinct, errorsDistinct, inputsNamed⟩ := named
    obtain ⟨s₁, inputsDone, tokensDone⟩ := Option.bind_eq_some.mp done
    rcases filter_key_cases inputsDistinct id with ⟨absent, none⟩ | ⟨inInputs, input, one⟩
    · have same : s₁ = s := by
        unfold Slot.afterInputs at inputsDone
        rw [none] at inputsDone
        exact (Option.some.inj inputsDone).symm
      subst same
      obtain ⟨ends, unnamed⟩ := at_.afterTokens generatedDistinct errorsDistinct tokensDone
      by_cases mentioned : id ∈ generated.map Token.requestId ∨ id ∈ errors.map GenerateError.requestId
      · exact ends mentioned
      · rw [not_or] at mentioned
        exact ⟨phase, unnamed mentioned.1 mentioned.2 ▸ at_⟩
    · unfold Slot.afterInputs at inputsDone
      rw [one] at inputsDone
      simp only [List.foldlM_cons, List.foldlM_nil, Option.bind_eq_bind] at inputsDone
      obtain ⟨s₂, step, rest⟩ := Option.bind_eq_some.mp inputsDone
      cases rest
      obtain ⟨phase₁, at₁⟩ := at_.onInput step
      exact (at₁.afterTokens generatedDistinct errorsDistinct tokensDone).1 (inputsNamed id inInputs)

/-- An admitted request starts its protocol: a stream with the first message of `infer_stream`. -/
theorem enter {e : Entry σ} (fresh : e.Fresh) (closed : Bool) :
    Slot.AtPhase e.channel false ⟨some e, e.firstMessages, closed⟩ e.phase := by
  have zero := fresh.generatedTokens
  refine ⟨?_, fun e' found => ?_, (fun vacant => by cases vacant)⟩
  · unfold Entry.firstMessages Entry.phase
    cases e.channel
    · exact .nil
    · simpa [zero] using Follows.snoc .nil (.start e.inputLength e.request)
  · cases found
    exact ⟨rfl, by rw [zero]; decide, .inl rfl⟩

end Slot.AtPhase

end Batching
