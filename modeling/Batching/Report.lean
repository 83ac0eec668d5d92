/-
**What a stream's adapter reports when dropped.**

`ResponseStream::drop` passes to `on_drop` the count, the stop reason, the times, the accumulated
text and the error the adapter last received (lines 224-238); when no stop reason came, the reason
is `Error` after an error and `Cancelled` otherwise. Over every run, a channel holds responses that
leave its stream going and then, once its entry has left, at most one message that ends it. So
what the adapter reports is that message's stop reason and times, `Error` with the error for an
error, and `Cancelled` when none came.

* `Slot.Ending`, with one lemma per slot step: the messages on a channel leave its stream going,
  but for one last message that ends it once the entry has left;
* `ResponseStream.receive_ok_fields`: with an incremental decoder, a response sets the adapter's
  stop reason and times and leaves its error as it is;
* **`run_dropReport`**: after every run, the adapter that read a request's channel reports the
  stop reason, the times and the error of the channel's terminal message, and `Cancelled` without
  one.
-/

import Batching.Receiver

namespace Batching

variable {σ : Type} {dec : Decoder σ}

/-- Whether a message ends its stream: a response with a stop reason, or an error. -/
def Reply.ends : Reply → Bool
  | .ok r => r.reason != .notFinished
  | .error _ => true

/-- A message that leaves its stream going: a response with no stop reason and no times. -/
def Reply.Going : Reply → Prop
  | .ok r => r.reason = .notFinished ∧ r.times = none
  | .error _ => False

theorem Reply.ends_of_going {m : Reply} (going : m.Going) : m.ends = false := by
  cases m with
  | ok r => simp [Reply.ends, going.1]
  | error _ => exact going.elim

/-- What `on_drop` is to be passed for a stream with the count and the text read, from the message
that ended it: that response's stop reason and times, `Error` and the error for an error, and
`Cancelled` when none did. -/
def dropReport (count : UInt32) (text : Text) :
    Option Reply → UInt32 × StopReason × Option Times × Text × Option InferError
  | some (.ok r) => (count, r.reason, r.times, text, none)
  | some (.error err) => (count, .error, none, text, some (.generationError err.toString))
  | none => (count, .cancelled, none, text, none)

/-! ### The adapter -/

namespace ResponseStream

/-- With an incremental decoder, the adapter's own decoding never fails. -/
theorem decodeStep_err (incremental : dec.Incremental) (d : σ) (token : Option Token)
    (ir : InferResponse) : (decodeStep dec d token ir).2.2 = none := by
  unfold decodeStep
  rcases token with _ | t
  · simp only
    split_ifs
    · obtain ⟨d', tail, flushed, -⟩ := incremental.flush d
      simp only [flushed]
    · rfl
  · obtain ⟨d', piece, next, -⟩ := incremental.next d t.tokenId
    simp only [next]
    split_ifs
    · obtain ⟨d'', tail, flushed, -⟩ := incremental.flush d'
      simp only [flushed]
    · rfl

/-- **A response, with an incremental decoder**, sets the adapter's stop reason, and its times
when it carries any, and leaves its error as it is. -/
theorem receive_ok_fields (incremental : dec.Incremental) (rs : ResponseStream σ)
    (ir : InferResponse) :
    (rs.receive dec (.ok ir)).1.stopReason = ir.reason ∧
      (rs.receive dec (.ok ir)).1.times = (if ir.times.isSome then ir.times else rs.times) ∧
      (rs.receive dec (.ok ir)).1.err = rs.err := by
  unfold receive
  cases output : rs.output with
  | string text => simp only; split_ifs <;> simp
  | decoder d =>
    simp only
    rcases step : decodeStep dec d ir.tokens.first { ir with times := none } with ⟨d', ir', err⟩
    have clean := decodeStep_err incremental d ir.tokens.first { ir with times := none }
    rw [step] at clean
    subst clean
    simp only
    split_ifs <;> simp

/-- Responses that leave a stream going leave the adapter's stop reason, times and error as they
are. -/
theorem receiveAll_going (incremental : dec.Incremental) :
    ∀ (ms : List Reply) (rs : ResponseStream σ), (∀ m ∈ ms, m.Going) →
      rs.stopReason = .notFinished →
      (rs.receiveAll dec ms).1.stopReason = .notFinished ∧
        (rs.receiveAll dec ms).1.times = rs.times ∧ (rs.receiveAll dec ms).1.err = rs.err
  | [], _, _, going => ⟨going, rfl, rfl⟩
  | .error _ :: _, _, goings, _ => (goings _ (List.mem_cons_self _ _)).elim
  | .ok ir :: ms, rs, goings, _ => by
    obtain ⟨unfinished, untimed⟩ : Reply.Going (.ok ir) := goings _ (List.mem_cons_self _ _)
    obtain ⟨reason, times, err⟩ := receive_ok_fields incremental rs ir
    obtain ⟨reason', times', err'⟩ := receiveAll_going incremental ms (rs.receive dec (.ok ir)).1
      (fun m member => goings m (List.mem_cons_of_mem _ member)) (reason.trans unfinished)
    simp only [receiveAll]
    exact ⟨reason', times'.trans (by simp [times, untimed]), err'.trans err⟩

end ResponseStream

/-! ### How a channel ends -/

/-- A terminal response ends its stream. -/
theorem Entry.finalResponse_ends {now : Nat} {e : Entry σ} {output : Token} {text : Option Text}
    {reason : StopReason} {r : Reply} (final : e.finalResponse dec now output text reason = some r)
    (finished : reason ≠ .notFinished) : r.ends = true := by
  rcases Entry.finalResponse_shape final with ⟨message, rfl⟩ | ⟨response, rfl, reasoned, -⟩
  · rfl
  · simpa [Reply.ends, reasoned] using finished

/-- How a channel ends: every message leaves its stream going, or all do but the last, which
ends it, the entry having left. -/
inductive Slot.Ending (s : Slot σ) : Prop
  | going : (∀ m ∈ s.sent, m.Going) → s.Ending
  | ended {before : List Reply} {last : Reply} : s.sent = before ++ [last] →
      (∀ m ∈ before, m.Going) → last.ends = true → s.entry = none → s.Ending

namespace Slot.Ending

variable {s s' : Slot σ}

/-- A slot with an entry has sent nothing that ends its stream. -/
theorem going_of_present (ending : s.Ending) {e : Entry σ} (present : s.entry = some e) :
    ∀ m ∈ s.sent, m.Going := by
  cases ending with
  | going going => exact going
  | ended _ _ _ gone => cases present.symm.trans gone

theorem append_going (going : ∀ m ∈ s.sent, m.Going) {sent : List Reply}
    (more : ∀ m ∈ sent, m.Going) (sent' : s'.sent = s.sent ++ sent) : s'.Ending :=
  .going fun m member => by
    rw [sent'] at member
    rcases List.mem_append.mp member with old | new
    exacts [going m old, more m new]

theorem onInput (ending : s.Ending) {tokens : List Token} (done : s.onInput tokens = some s') :
    s'.Ending := by
  obtain ⟨e, present, -, ⟨-, rfl⟩ | ⟨-, rfl⟩⟩ := onInput_eq_some done
  · exact append_going (ending.going_of_present present) (by simp [Reply.Going,
      InferResponse.streamInputInfo]) rfl
  · exact .going (ending.going_of_present present)

/-- **One generated token** sends responses that leave the stream going, or ends it, removing
its entry. -/
theorem onToken (ending : s.Ending) {now : Nat} {output : Token}
    (done : s.onToken dec now output = some s') : s'.Ending := by
  obtain ⟨e, outcome, present, stepped, rfl⟩ := onToken_eq_some done
  have going := ending.going_of_present present
  have inprog : ∀ count text, Reply.Going (.ok (InferResponse.streamInprog output count text)) :=
    fun _ _ => ⟨rfl, rfl⟩
  cases outcome with
  | keep e' sent =>
    obtain ⟨_, -, -, answered⟩ := Entry.onToken_keep stepped
    refine append_going going ?_ rfl
    rcases answered with ⟨-, -, rfl⟩ | ⟨-, -, rfl⟩ <;> simp [inprog]
  | remove sent =>
    rcases Entry.onToken_remove stepped with ⟨err, -, rfl⟩ |
      ⟨e', text, -, ⟨reason, r, -, finished, final, rfl⟩ | ⟨-, -, ⟨-, rfl⟩ | ⟨-, -, rfl⟩⟩⟩
    · exact .ended rfl going rfl rfl
    · exact .ended rfl going (Entry.finalResponse_ends final finished) rfl
    · exact append_going going (by simp [inprog]) rfl
    · exact append_going going (by simp) rfl

theorem onError (ending : s.Ending) {message : String} (done : s.onError message = some s') :
    s'.Ending := by
  obtain ⟨e, present, rfl⟩ := onError_eq_some done
  exact .ended rfl (ending.going_of_present present) rfl rfl

theorem onFailure (ending : s.Ending) (error : ClientError) (keep : Bool) :
    (s.onFailure error keep).Ending := by
  unfold Slot.onFailure
  split
  · rename_i failing
    obtain ⟨e, present⟩ := Option.isSome_iff_exists.mp failing.1
    exact .ended rfl (ending.going_of_present present) rfl rfl
  · exact ending

theorem close (ending : s.Ending) : { s with closed := true }.Ending := by
  cases ending with
  | going going => exact .going going
  | ended sent before last gone => exact .ended sent before last gone

/-- An admitted request's channel holds at most the first message of a stream. -/
theorem enter (e : Entry σ) (closed : Bool) : Slot.Ending ⟨some e, e.firstMessages, closed⟩ :=
  .going fun m member => by
    unfold Entry.firstMessages at member
    split at member
    · rw [List.mem_singleton.mp member]
      exact ⟨rfl, rfl⟩
    · cases member

theorem onCall (ending : s.Ending) {clock : Nat → Nat} {result : TokenProcessor.CallResult}
    {startId : Option Nat} {id : Nat} (done : s.onCall dec clock result startId id = some s') :
    s'.Ending :=
  Slot.onCall_preserves (P := fun _ s => s.Ending)
    (fun _ _ _ _ ending => ending.onInput)
    (fun _ _ _ _ _ _ ending => ending.onToken)
    (fun _ _ _ _ ending => ending.onError)
    (fun _ error keep _ ending => ending.onFailure error keep) [] ending done

end Slot.Ending

/-- Every channel ends at most once, after every run. -/
theorem Run.slotEnding {allowed : Event σ → Prop} {history : List (Event σ)}
    {p : TokenProcessor σ} (run : Run dec allowed history p) (id : Nat) : (p.slot id).Ending := by
  cases found : admitted history id with
  | none =>
    refine .going fun m member => ?_
    rw [show (p.slot id).sent = p.sent id from rfl, (run.unadmitted found).2.1] at member
    cases member
  | some e₀ =>
    exact run.admittedSlots (J := fun _ _ s => s.Ending) (fun e closed _ _ => .enter e closed)
      (fun _ _ _ ending => ending.close) (fun _ _ _ _ _ _ _ _ ending done => ending.onCall done)
      e₀ found

/-- The adapter that read a channel reports how the channel ended, after every run. -/
theorem Run.readReport (incremental : dec.Incremental) {allowed : Event σ → Prop}
    {history : List (Event σ)} {p : TokenProcessor σ} (run : Run dec allowed history p) {id : Nat}
    {request : GenerateRequest} {rs : ResponseStream σ}
    {items : List (Except InferError InferResponse)}
    (read : ResponseStream.read dec request (p.sent id) = (rs, items)) :
    rs.report dec = dropReport rs.tokenCount (rs.output.intoString dec)
      ((p.sent id).find? Reply.ends) := by
  have start := ResponseStream.receiveAll_going incremental
  cases run.slotEnding id with
  | going going =>
    obtain ⟨reason, times, err⟩ : rs.stopReason = .notFinished ∧ rs.times = none ∧ rs.err = none := by
      have := start (p.sent id) (ResponseStream.start dec request) going rfl
      rwa [← ResponseStream.read, read] at this
    have none : (p.sent id).find? Reply.ends = none :=
      List.find?_eq_none.mpr fun m member => by simp [Reply.ends_of_going (going m member)]
    simp [ResponseStream.report, dropReport, none, reason, times, err]
  | @ended before last sent going ends gone =>
    change p.sent id = _ at sent
    rw [sent, ResponseStream.read_snoc] at read
    rw [sent, List.find?_append, List.find?_eq_none.mpr fun m member => by
      simp [Reply.ends_of_going (going m member)]]
    obtain ⟨reason, times, err⟩ : (ResponseStream.read dec request before).1.stopReason = .notFinished ∧
        (ResponseStream.read dec request before).1.times = none ∧
        (ResponseStream.read dec request before).1.err = none :=
      start _ (ResponseStream.start dec request) going rfl
    cases read
    cases last with
    | ok r =>
      obtain ⟨reason', times', err'⟩ := ResponseStream.receive_ok_fields incremental
        (ResponseStream.read dec request before).1 r
      have finished : r.reason ≠ .notFinished := by simpa [Reply.ends] using ends
      rw [times] at times'
      simp only [ResponseStream.report, dropReport, List.find?, ends, reason', times', err', err,
        finished, if_false, Option.none_or]
      cases r.times <;> rfl
    | error e =>
      simp [ResponseStream.report, dropReport, List.find?, ends, ResponseStream.receive, reason,
        times]

/-- **What the adapter reports when dropped**, after every run, with an incremental decoder: the
count and the text it read, with the stop reason and the times of the response that ended the
channel, `Error` and the error if an error did, and `Cancelled` if nothing did yet. -/
theorem run_dropReport (incremental : dec.Incremental) {allowed : Event σ → Prop}
    {history : List (Event σ)} {p : TokenProcessor σ} (run : Run dec allowed history p) :
    ∀ id request rs items, ResponseStream.read dec request (p.sent id) = (rs, items) →
      rs.report dec = dropReport rs.tokenCount (rs.output.intoString dec)
        ((p.sent id).find? Reply.ends) :=
  fun _ _ _ _ read => run.readReport incremental read

/-- The server fails streamed request 1 before its first token. -/
def oomStreamed : TokenProcessor Text :=
  (((TokenProcessor.initial false).enter 1 { TokenProcessor.plainEntry with channel := .stream }).apply
    byteDecoder (.call (fun _ => 0) (.ok (some ([], [], [⟨1, "out of memory"⟩], 1))) none)).getD
    (TokenProcessor.initial false)

/-- Its adapter reports the error, with no token and no text. -/
theorem oomStreamed_dropReport :
    (ResponseStream.read byteDecoder TokenProcessor.plainEntry.request
        (oomStreamed.sent 1)).1.report byteDecoder =
      (0, .error, none, [], some (.generationError "out of memory")) :=
  have admitted : Run byteDecoder (fun _ => True)
      [.enter 1 { TokenProcessor.plainEntry with channel := .stream }]
      ((TokenProcessor.initial false).enter 1 { TokenProcessor.plainEntry with channel := .stream }) :=
    .step (.start false) ⟨rfl, rfl, rfl, rfl, rfl, rfl⟩ trivial rfl
  have run : Run byteDecoder (fun _ => True)
      [.enter 1 { TokenProcessor.plainEntry with channel := .stream },
        .call (fun _ => 0) (.ok (some ([], [], [⟨1, "out of memory"⟩], 1))) none] oomStreamed :=
    .step admitted trivial trivial rfl
  (run_dropReport byteDecoder_incremental run 1 TokenProcessor.plainEntry.request
    (ResponseStream.read byteDecoder TokenProcessor.plainEntry.request (oomStreamed.sent 1)).1
    (ResponseStream.read byteDecoder TokenProcessor.plainEntry.request (oomStreamed.sent 1)).2
    rfl).trans rfl

end Batching
