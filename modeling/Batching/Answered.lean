/-
**Every request is answered.**

A request leaves the in-flight map after the message that ends its stream (its terminal response
or an error), or when its step finds its receiver gone. In an environment that keeps the task in
step with the server the map is empty whenever the task waits on the queue, so at each such point
every request the run admitted has had its terminal message, unless its client went away first.

* `Slot.Answered`, with one lemma per slot step: a slot whose entry has left has a message that
  ended its stream on its channel, or its receiver is gone;
* **`BenignRun.answered_when_idle`**: in every run in step with the server, whenever the task
  waits on the queue or has returned, every request it admitted has had its terminal message or
  has lost its receiver;
* **`BenignRun.reported_when_idle`**: at such a point the adapter of every stream whose receiver
  is still there reports, when dropped, how its terminal message ended it, never the stream left
  without one.
-/

import Batching.Report
import Batching.Sync

namespace Batching

variable {σ : Type} {dec : Decoder σ}

/-- A slot whose entry has left has sent a message that ends its stream, unless its receiver is
gone. -/
structure Slot.Answered (s : Slot σ) : Prop where
  left : s.entry = none → (∃ m ∈ s.sent, m.ends = true) ∨ s.closed = true

namespace Slot.Answered

variable {s s' : Slot σ}

/-- A step that sends a message ending the stream answers the slot. -/
theorem of_ends {sent : List Reply} (appended : s'.sent = s.sent ++ sent) {m : Reply}
    (member : m ∈ sent) (ends : m.ends = true) : s'.Answered :=
  ⟨fun _ => .inl ⟨m, appended ▸ List.mem_append_right _ member, ends⟩⟩

theorem onInput {tokens : List Token} (done : s.onInput tokens = some s') : s'.Answered := by
  obtain ⟨e, present, -, ⟨-, rfl⟩ | ⟨-, rfl⟩⟩ := onInput_eq_some done
  · exact ⟨fun gone => by cases present.symm.trans gone⟩
  · exact ⟨fun gone => by cases gone⟩

/-- **One generated token** leaves the entry in flight, or removes it after its terminal message
or an error, or because its receiver is gone. -/
theorem onToken {now : Nat} {output : Token} (done : s.onToken dec now output = some s') :
    s'.Answered := by
  obtain ⟨e, outcome, present, stepped, rfl⟩ := onToken_eq_some done
  cases outcome with
  | keep e' sent => exact ⟨fun gone => by cases gone⟩
  | remove sent =>
    rcases Entry.onToken_remove stepped with ⟨err, -, rfl⟩ |
      ⟨e', text, -, ⟨reason, r, -, finished, final, rfl⟩ | ⟨-, gone, -⟩⟩
    · exact of_ends rfl (List.mem_singleton_self _) rfl
    · exact of_ends rfl (List.mem_singleton_self _) (Entry.finalResponse_ends final finished)
    · exact ⟨fun _ => .inr gone⟩

theorem onError {message : String} (done : s.onError message = some s') : s'.Answered := by
  obtain ⟨e, -, rfl⟩ := onError_eq_some done
  exact of_ends rfl (List.mem_singleton_self _) rfl

theorem onFailure (answered : s.Answered) (error : ClientError) (keep : Bool) :
    (s.onFailure error keep).Answered := by
  unfold Slot.onFailure
  split
  · exact of_ends rfl (List.mem_singleton_self _) rfl
  · exact answered

theorem onCall (answered : s.Answered) {clock : Nat → Nat} {result : TokenProcessor.CallResult}
    {startId : Option Nat} {id : Nat} (done : s.onCall dec clock result startId id = some s') :
    s'.Answered :=
  Slot.onCall_preserves (P := fun _ s => s.Answered)
    (fun _ _ _ _ _ done => onInput done)
    (fun _ _ _ _ _ _ _ done => onToken done)
    (fun _ _ _ _ _ done => onError done)
    (fun _ error keep _ answered => answered.onFailure error keep) [] answered done

end Slot.Answered

/-- Every request the run admitted has been answered once it has left, after every run. -/
theorem Run.answeredSlot {allowed : Event σ → Prop} {history : List (Event σ)}
    {p : TokenProcessor σ} (run : Run dec allowed history p) {id : Nat} {e₀ : Entry σ}
    (found : admitted history id = some e₀) : (p.slot id).Answered :=
  run.admittedSlots (J := fun _ _ s => s.Answered) (fun _ _ _ _ => ⟨fun gone => by cases gone⟩)
    (fun _ _ _ _ => ⟨fun _ => .inr rfl⟩) (fun _ _ _ _ _ _ _ _ answered done => answered.onCall done)
    e₀ found

namespace BatchingTask

variable {cfg : Config}

/-- A benign run's processor went through the run's events. -/
theorem BenignRun.processor {history : List (Event σ)} {t : BatchingTask σ}
    (run : BenignRun cfg dec history t) : Batching.Run dec (fun _ => True) history t.processor :=
  run.run.processorRun fun _ _ => trivial

/-- While the task waits on the queue or has returned, nothing is in flight. -/
theorem BenignRun.vacant_when_idle (ends : dec.EndsWithPieces) {history : List (Event σ)}
    {t : BatchingTask σ} (run : BenignRun cfg dec history t)
    (idle : t.point = .waiting ∨ t.point = .finished) (id : Nat) :
    t.processor.entries.get id = none := by
  have agrees := (run.synced ends).agrees
  have empty : t.processor.entries.keys = [] := by
    rcases idle with idle | idle <;> rw [idle] at agrees <;> exact agrees
  exact (InFlight.get_eq_none_iff _).mpr (by simp [empty])

/-- **No request is lost.** In every run in step with the server, whenever the task waits on the
queue or has returned, every request it admitted has had its terminal message or lost its
receiver. -/
theorem BenignRun.answered_when_idle (ends : dec.EndsWithPieces) {history : List (Event σ)}
    {t : BatchingTask σ} (run : BenignRun cfg dec history t)
    (idle : t.point = .waiting ∨ t.point = .finished) :
    ∀ id e₀, admitted history id = some e₀ →
      (∃ m ∈ t.processor.sent id, m.ends = true) ∨ t.processor.closed id = true :=
  fun id _ found => (run.processor.answeredSlot found).left (run.vacant_when_idle ends idle id)

/-- **Every stream still read is accounted for by its end**: at such a point the adapter of a
stream whose receiver is still there reports how its terminal message ended it. -/
theorem BenignRun.reported_when_idle (ends : dec.EndsWithPieces) (incremental : dec.Incremental)
    {history : List (Event σ)} {t : BatchingTask σ} (run : BenignRun cfg dec history t)
    (idle : t.point = .waiting ∨ t.point = .finished) :
    ∀ id e₀ rs items, admitted history id = some e₀ → t.processor.closed id = false →
      ResponseStream.read dec e₀.request (t.processor.sent id) = (rs, items) →
      ∃ m, (t.processor.sent id).find? Reply.ends = some m ∧
        rs.report dec = dropReport rs.tokenCount (rs.output.intoString dec) (some m) := by
  intro id e₀ rs items found listening read
  rcases (run.processor.answeredSlot found).left (run.vacant_when_idle ends idle id) with
    ⟨m, member, ended⟩ | closed
  · obtain ⟨m', first⟩ := Option.isSome_iff_exists.mp (List.find?_isSome.mpr ⟨m, member, ended⟩)
    exact ⟨m', first, first ▸ run.processor.readReport incremental read⟩
  · cases listening.symm.trans closed

/-- Request 1 alone, the first batch the queue forms. -/
def oneBatch : QueueBatch Text := ⟨0, [(1, TokenProcessor.plainEntry)]⟩

def onePrefilling : BatchingTask Text × List (Event Text) :=
  ((initial false).step growthConfig byteDecoder (.nextBatch (some oneBatch))).getD
    (initial false, [])

/-- The prefill answers the end-of-sequence token: request 1 ends. -/
def oneEnded : BatchingTask Text × List (Event Text) :=
  (onePrefilling.1.step growthConfig byteDecoder (.answer (fun _ => 0) firstEnds)).getD
    (initial false, [])

def oneStepCall : BatchingTask Text × List (Event Text) :=
  (oneEnded.1.step growthConfig byteDecoder (.grow false none)).getD (initial false, [])

/-- The server steps nothing more, and the task waits on the queue again. -/
def oneIdle : BatchingTask Text × List (Event Text) :=
  (oneStepCall.1.step growthConfig byteDecoder (.answer (fun _ => 0) steady)).getD
    (initial false, [])

/-- Back on the queue, request 1 has had its terminal message. -/
theorem oneIdle_answered :
    oneIdle.1.point = .waiting ∧
      ((∃ m ∈ oneIdle.1.processor.sent 1, m.ends = true) ∨ oneIdle.1.processor.closed 1 = true) :=
  have run : BenignRun growthConfig byteDecoder
      ([] ++ onePrefilling.2 ++ oneEnded.2 ++ oneStepCall.2 ++ oneIdle.2) oneIdle.1 :=
    .step (.step (.step (.step (.start false) (by rfl) (by rfl)
        (rfl : (initial false).step growthConfig byteDecoder (.nextBatch (some oneBatch)) =
          some onePrefilling))
      (by rfl) (by rfl)
        (rfl : onePrefilling.1.step growthConfig byteDecoder (.answer (fun _ => 0) firstEnds) =
          some oneEnded))
      (by rfl) (by rfl)
        (rfl : oneEnded.1.step growthConfig byteDecoder (.grow false none) = some oneStepCall))
      (by rfl) (by rfl)
        (rfl : oneStepCall.1.step growthConfig byteDecoder (.answer (fun _ => 0) steady) =
          some oneIdle)
  ⟨rfl, BenignRun.answered_when_idle TokenProcessor.byteDecoder_endsWithPieces run (.inl rfl) 1
    TokenProcessor.plainEntry rfl⟩

/-- Request 1 alone, streamed. -/
def streamBatch : QueueBatch Text := ⟨0, [(1, { TokenProcessor.plainEntry with channel := .stream })]⟩

def streamPrefilling : BatchingTask Text × List (Event Text) :=
  ((initial false).step growthConfig byteDecoder (.nextBatch (some streamBatch))).getD
    (initial false, [])

def streamEnded : BatchingTask Text × List (Event Text) :=
  (streamPrefilling.1.step growthConfig byteDecoder (.answer (fun _ => 0) firstEnds)).getD
    (initial false, [])

def streamStepCall : BatchingTask Text × List (Event Text) :=
  (streamEnded.1.step growthConfig byteDecoder (.grow false none)).getD (initial false, [])

def streamIdle : BatchingTask Text × List (Event Text) :=
  (streamStepCall.1.step growthConfig byteDecoder (.answer (fun _ => 0) steady)).getD
    (initial false, [])

/-- Back on the queue, the adapter of request 1 reports the end-of-sequence token. -/
theorem streamIdle_reported :
    ∃ m, (streamIdle.1.processor.sent 1).find? Reply.ends = some m ∧
      (ResponseStream.read byteDecoder TokenProcessor.plainEntry.request
          (streamIdle.1.processor.sent 1)).1.report byteDecoder =
        dropReport (ResponseStream.read byteDecoder TokenProcessor.plainEntry.request
            (streamIdle.1.processor.sent 1)).1.tokenCount
          ((ResponseStream.read byteDecoder TokenProcessor.plainEntry.request
            (streamIdle.1.processor.sent 1)).1.output.intoString byteDecoder) (some m) :=
  have run : BenignRun growthConfig byteDecoder
      ([] ++ streamPrefilling.2 ++ streamEnded.2 ++ streamStepCall.2 ++ streamIdle.2)
      streamIdle.1 :=
    .step (.step (.step (.step (.start false) (by rfl) (by rfl)
        (rfl : (initial false).step growthConfig byteDecoder (.nextBatch (some streamBatch)) =
          some streamPrefilling))
      (by rfl) (by rfl)
        (rfl : streamPrefilling.1.step growthConfig byteDecoder (.answer (fun _ => 0) firstEnds) =
          some streamEnded))
      (by rfl) (by rfl)
        (rfl : streamEnded.1.step growthConfig byteDecoder (.grow false none) = some streamStepCall))
      (by rfl) (by rfl)
        (rfl : streamStepCall.1.step growthConfig byteDecoder (.answer (fun _ => 0) steady) =
          some streamIdle)
  BenignRun.reported_when_idle TokenProcessor.byteDecoder_endsWithPieces byteDecoder_incremental
    run (.inl rfl) 1 { TokenProcessor.plainEntry with channel := .stream }
    (ResponseStream.read byteDecoder TokenProcessor.plainEntry.request
      (streamIdle.1.processor.sent 1)).1
    (ResponseStream.read byteDecoder TokenProcessor.plainEntry.request
      (streamIdle.1.processor.sent 1)).2 rfl rfl rfl

end BatchingTask

end Batching
