/-
**Why a request stopped.**

`check_stopping_criteria` tries its tests in a fixed order (lines 531-540): the deadline, then the
minimum number of new tokens, below which nothing else ends a request, then the end-of-sequence
token, the maximum and the stop sequences. `process_next_tokens` counts the token before it asks,
and puts the reason and the count in the terminal response. So the reason of every terminal
response can be checked against the request, over a whole run: the count it reports is that of
every token the backend returned for the request, and an entry still in flight has stayed below
its minimum or its maximum at each of them.

* `StopReason.Justified`: what a terminal response's reason and count say of its request's
  parameters and of the tokens returned for it; `StopReason.Justified.ofStep`: the response of one
  token step has it;
* `Slot.Justified`, with one lemma per slot step: an entry in flight has counted its tokens and is
  below its minimum or its maximum, and its channel holds only responses whose reason is
  justified;
* **`run_stopReasons`**: over every run, every terminal response on a request's channel counts the
  tokens returned for the request, is never `Cancelled` or `Error`, reaches the minimum unless the
  deadline ended it, counts exactly `max(1, min_new_tokens, max_new_tokens)` when the maximum ended
  it, has the end-of-sequence token last when that ended it, and ends on a stop sequence only for a
  request that has one.
-/

import Batching.Runs
import Batching.Completion

namespace Batching

variable {σ : Type} {dec : Decoder σ}

/-! ### What a reason says -/

/-- What a terminal response's stop reason `reason` and the count `reported` with it say, for a
request with parameters `params` and the tokens `returned` for it. -/
structure StopReason.Justified (dec : Decoder σ) (params : Params) (returned : List Token)
    (reason : StopReason) (reported : UInt32) : Prop where
  count : reported.toNat = returned.length
  fromCriteria : reason ≠ .cancelled ∧ reason ≠ .error
  minimum : reason ≠ .timeLimit → params.minNewTokens ≤ reported
  deadline : reason = .timeLimit → params.deadline.isSome
  eos : reason = .eosToken → returned.getLast?.map Token.tokenId = some dec.eosTokenId
  maximum : reason = .maxTokens ∨ reason = .tokenLimit →
    returned.length = max 1 (max params.minNewTokens.toNat params.maxNewTokens.toNat) ∧
      (reason = .tokenLimit ↔ params.maxIsTokenLimit = true)
  stopSequence : reason = .stopSequence → params.stopSeqs ≠ []

/-- A count that is zero, or below the minimum or the maximum, has room for one more token. -/
theorem room_of_below {g lo hi : UInt32} (below : g = 0 ∨ g < lo ∨ g < hi) :
    g.toNat + 1 < UInt32.size := by
  have := UInt32.toNat_lt_size lo
  have := UInt32.toNat_lt_size hi
  rcases below with rfl | below | below
  · decide
  all_goals rw [uint32_lt_iff_toNat_lt] at below; omega

/-- **The reason a token step stops an entry with is justified**, with the count after the step,
when the entry had counted the tokens `returned` before it and was below its minimum or its
maximum. -/
theorem StopReason.Justified.ofStep {e e' : Entry σ} {returned : List Token} {output : Token}
    {now : Nat} {text : Option Text} {reason : StopReason}
    (count : e.generatedTokens.toNat = returned.length)
    (below : e.generatedTokens = 0 ∨ e.generatedTokens < e'.params.minNewTokens ∨
      e.generatedTokens < e'.params.maxNewTokens)
    (counted : e'.generatedTokens = e.generatedTokens + 1)
    (check : checkStoppingCriteria dec now e' output.tokenId text = some reason)
    (stopped : reason ≠ .notFinished) :
    reason.Justified dec e'.params (returned ++ [output]) e'.generatedTokens := by
  have next : e'.generatedTokens.toNat = (returned ++ [output]).length := by
    rw [counted, uint32_toNat_add_one (room_of_below below), count, List.length_append,
      List.length_singleton]
  have last : (returned ++ [output]).getLast?.map Token.tokenId = some output.tokenId := by simp
  rcases checkStoppingCriteria_stopped check stopped with
    ⟨rfl, passed⟩ | ⟨reached, ⟨rfl, eos⟩ | ⟨above, rfl⟩ | ⟨rfl, found⟩⟩
  · exact ⟨next, by decide, fun other => absurd rfl other, fun _ => deadline_isSome_of_passed passed,
      nofun, (by rintro (h | h) <;> cases h), nofun⟩
  · exact ⟨next, by decide, fun _ => reached, nofun, fun _ => last.trans (congrArg some eos),
      (by rintro (h | h) <;> cases h), nofun⟩
  · have exact : (returned ++ [output]).length =
        max 1 (max e'.params.minNewTokens.toNat e'.params.maxNewTokens.toNat) := by
      rw [← next]
      rw [uint32_le_iff_toNat_le] at reached above
      rw [counted, uint32_toNat_add_one (room_of_below below)] at reached above ⊢
      rcases below with zero | below | below
      · rw [uint32_eq_zero_iff] at zero
        omega
      all_goals rw [uint32_lt_iff_toNat_lt] at below; omega
    cases limit : e'.params.maxIsTokenLimit <;>
      exact ⟨next, by decide, fun _ => reached, nofun, nofun, fun _ => ⟨exact, by simp [limit]⟩, nofun⟩
  · exact ⟨next, by decide, fun _ => reached, nofun, nofun,
      (by rintro (h | h) <;> cases h), fun _ => stopSeqs_ne_nil_of_matches found⟩

/-! ### Over a run -/

/-- What the stop reasons say of the slot of a request admitted as `e₀`, given the tokens
`returned` for it: an entry in flight has counted them and is below its minimum or its maximum,
it has sent no terminal response yet, and every terminal response on the channel is justified. -/
structure Slot.Justified (dec : Decoder σ) (e₀ : Entry σ) (returned : List Token) (s : Slot σ) :
    Prop where
  entry : ∀ e, s.entry = some e → e.request = e₀.request ∧
    e.generatedTokens.toNat = returned.length ∧
    (e.generatedTokens = 0 ∨ e.generatedTokens < e₀.params.minNewTokens ∨
      e.generatedTokens < e₀.params.maxNewTokens)
  quiet : s.entry.isSome → ∀ r, .ok r ∈ s.sent → r.reason = .notFinished
  terminal : ∀ r, .ok r ∈ s.sent → r.reason ≠ .notFinished →
    r.reason.Justified dec e₀.params returned r.genTokenCount

namespace Slot.Justified

variable {e₀ : Entry σ} {returned : List Token} {s s' : Slot σ}

/-- Messages put on the channel of an entry in flight keep the terminal responses justified when
those among them are, whatever tokens have been returned since. -/
theorem terminal_append (justified : s.Justified dec e₀ returned) (present : s.entry.isSome)
    {returned' : List Token} {sent : List Reply}
    (new : ∀ r, .ok r ∈ sent → r.reason ≠ .notFinished →
      r.reason.Justified dec e₀.params returned' r.genTokenCount) :
    ∀ r, .ok r ∈ s.sent ++ sent → r.reason ≠ .notFinished →
      r.reason.Justified dec e₀.params returned' r.genTokenCount := by
  intro r member stopped
  rcases List.mem_append.mp member with old | added
  · exact absurd (justified.quiet present r old) stopped
  · exact new r added stopped

/-- Messages with no stop reason, or no response at all. -/
theorem quiet_append {sent : List Reply} (quiet : ∀ r, .ok r ∈ sent → r.reason = .notFinished)
    {returned' : List Token} :
    ∀ r, .ok r ∈ sent → r.reason ≠ .notFinished →
      r.reason.Justified dec e₀.params returned' r.genTokenCount :=
  fun r member stopped => absurd (quiet r member) stopped

theorem onInput (justified : s.Justified dec e₀ returned) {tokens : List Token}
    (done : s.onInput tokens = some s') : s'.Justified dec e₀ returned := by
  obtain ⟨e, present, -, ⟨-, rfl⟩ | ⟨-, rfl⟩⟩ := onInput_eq_some done
  · refine ⟨justified.entry, fun _ r member => ?_,
      justified.terminal_append (by simp [present])
        (quiet_append (by simp [InferResponse.streamInputInfo]))⟩
    rcases List.mem_append.mp member with old | added
    · exact justified.quiet (by simp [present]) r old
    · simp only [List.mem_singleton, Except.ok.injEq] at added
      rw [added]
      rfl
  · refine ⟨fun e' found => ?_, fun _ => justified.quiet (by simp [present]), justified.terminal⟩
    cases found
    exact justified.entry e present

/-- **One generated token keeps the stop reasons justified**, with the token appended: an entry
that stays has counted it and is below its minimum or its maximum, and a terminal response is
justified by the step that sent it. -/
theorem onToken (justified : s.Justified dec e₀ returned) {now : Nat} {output : Token}
    (done : s.onToken dec now output = some s') : s'.Justified dec e₀ (returned ++ [output]) := by
  obtain ⟨e, outcome, present, stepped, rfl⟩ := onToken_eq_some done
  obtain ⟨request, count, below⟩ := justified.entry e present
  have params : e.params = e₀.params := by rw [Entry.params, request]
  have occupied : s.entry.isSome := by simp [present]
  cases outcome with
  | keep e' sent =>
    obtain ⟨text, -, -, answered⟩ := Entry.onToken_keep stepped
    have quietSent : ∀ r, .ok r ∈ sent → r.reason = .notFinished := by
      rcases answered with ⟨-, -, rfl⟩ | ⟨-, -, rfl⟩ <;> simp [InferResponse.streamInprog]
    refine ⟨fun e'' found => ?_, fun _ r member => ?_,
      justified.terminal_append occupied (quiet_append quietSent)⟩
    · cases found
      refine ⟨(Entry.onToken_keep_frame stepped).1.trans request, ?_, ?_⟩
      · rw [Entry.onToken_keep_generatedTokens stepped,
          uint32_toNat_add_one (room_of_below (params ▸ below)), count, List.length_append,
          List.length_singleton]
      · exact .inr (params ▸ Entry.onToken_keep_lt stepped)
    · rcases List.mem_append.mp member with old | added
      · exact justified.quiet occupied r old
      · exact quietSent r added
  | remove sent =>
    refine ⟨(fun _ found => by cases found), (fun vacant => by cases vacant),
      justified.terminal_append occupied ?_⟩
    rcases Entry.onToken_remove stepped with
      ⟨err, -, rfl⟩ | ⟨e', text, decoded, ⟨reason, r, check, stopped, final, rfl⟩ | ⟨-, -, ⟨-, rfl⟩ | ⟨-, -, rfl⟩⟩⟩
    · exact quiet_append (by simp)
    · intro r' member stopped'
      obtain rfl := List.mem_singleton.mp member
      rcases Entry.finalResponse_shape final with ⟨message, impossible⟩ |
        ⟨response, answer, reported, reportedCount, -⟩
      · cases impossible
      · cases answer
        obtain ⟨request', -, counted⟩ := Entry.decode_record decoded
        have params' : e'.params = e₀.params := by rw [Entry.params, request', request]
        rw [reported, reportedCount, ← params']
        rw [← params'] at below
        exact StopReason.Justified.ofStep count below counted check stopped
    · exact quiet_append (by simp [InferResponse.streamInprog])
    · exact quiet_append (by simp)

theorem onError (justified : s.Justified dec e₀ returned) {message : String}
    (done : s.onError message = some s') : s'.Justified dec e₀ returned := by
  obtain ⟨e, present, rfl⟩ := onError_eq_some done
  exact ⟨(fun _ found => by cases found), (fun vacant => by cases vacant),
    justified.terminal_append (by simp [present]) (quiet_append (by simp))⟩

theorem onFailure (justified : s.Justified dec e₀ returned) (error : ClientError) (keep : Bool) :
    (s.onFailure error keep).Justified dec e₀ returned := by
  unfold Slot.onFailure
  split
  · exact ⟨(fun _ found => by cases found), (fun vacant => by cases vacant),
      justified.terminal_append (by simp_all) (quiet_append (by simp))⟩
  · exact justified

/-- An admitted request has counted nothing and sent no terminal response. -/
theorem enter {e : Entry σ} (fresh : e.Fresh) (closed : Bool) :
    Slot.Justified dec e [] ⟨some e, e.firstMessages, closed⟩ := by
  refine ⟨fun e' found => ?_, fun _ => e.firstMessages_quiet,
    fun r member stopped => absurd (e.firstMessages_quiet r member) stopped⟩
  cases found
  exact ⟨rfl, by rw [fresh.generatedTokens]; rfl, .inl fresh.generatedTokens⟩

theorem onCall (justified : s.Justified dec e₀ returned) {clock : Nat → Nat}
    {result : TokenProcessor.CallResult} {startId : Option Nat} {id : Nat}
    (done : s.onCall dec clock result startId id = some s') :
    s'.Justified dec e₀ (returned ++ (Event.call (σ := σ) clock result startId).returned id) :=
  Slot.onCall_preserves (P := fun returned s => s.Justified dec e₀ returned)
    (fun _ _ _ _ justified => justified.onInput)
    (fun _ _ _ _ _ _ justified => justified.onToken)
    (fun _ _ _ _ justified => justified.onError)
    (fun _ error keep _ justified => justified.onFailure error keep) _ justified done

end Slot.Justified

variable {allowed : Event σ → Prop}

/-- **Every terminal response is justified by its request**, after every run: its count and its
reason follow from the request's parameters and the tokens returned for it. -/
theorem run_stopReasons {history : List (Event σ)} {p : TokenProcessor σ}
    (run : Run dec allowed history p) :
    ∀ id e₀ r, admitted history id = some e₀ → .ok r ∈ p.sent id → r.reason ≠ .notFinished →
      r.reason.Justified dec e₀.params (returned history id) r.genTokenCount := by
  intro id e₀ r found member stopped
  have slot := run.admittedSlots (J := fun e₀ returned s => s.Justified dec e₀ returned)
    (fun _ closed fresh _ => .enter fresh closed)
    (fun _ _ _ justified => ⟨justified.entry, justified.quiet, justified.terminal⟩)
    (fun _ _ _ _ _ _ _ _ justified done => justified.onCall done) e₀ found
  exact slot.terminal r member stopped

/-- Request 1 admitted, then answered with the end-of-sequence token. -/
def eosAnswered : TokenProcessor Text :=
  (((TokenProcessor.initial false).enter 1 TokenProcessor.plainEntry).apply byteDecoder
    (.call (fun _ => 0) (.ok (some ([⟨1, 0⟩], [], [], 1))) none)).getD (TokenProcessor.initial false)

/-- Request 1 ends on its first token, the end-of-sequence token: its response is justified. -/
theorem eosAnswered_stopReasons :
    eosAnswered.sent 1 =
        [.ok { genTokenCount := 1, tokenIds := [0], reason := .eosToken, times := some ⟨0, 0, 0⟩ }] ∧
      StopReason.eosToken.Justified byteDecoder TokenProcessor.plainEntry.params
        (returned [.enter 1 TokenProcessor.plainEntry,
          .call (fun _ => 0) (.ok (some ([⟨1, 0⟩], [], [], 1))) none] 1) 1 :=
  have admitted : Run byteDecoder (fun _ => True) [.enter 1 TokenProcessor.plainEntry]
      ((TokenProcessor.initial false).enter 1 TokenProcessor.plainEntry) :=
    .step (.start false) ⟨rfl, rfl, rfl, rfl, rfl, rfl⟩ trivial rfl
  have run : Run byteDecoder (fun _ => True) [.enter 1 TokenProcessor.plainEntry,
      .call (fun _ => 0) (.ok (some ([⟨1, 0⟩], [], [], 1))) none] eosAnswered :=
    .step admitted trivial trivial rfl
  ⟨rfl, run_stopReasons run 1 _ _ rfl (List.mem_singleton_self _) nofun⟩

end Batching
