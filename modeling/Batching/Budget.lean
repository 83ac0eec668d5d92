/-
**The token budget.**

`check_stopping_criteria` keeps an entry going while it is below `min_new_tokens` and ends it at
`max_new_tokens` at the latest. When the minimum is not above the maximum, an entry in flight has
generated no token or fewer than its maximum, whatever the tokens, deadlines, stop sequences and
cancellations of the run.

* `Slot.WithinBudget`: what that says of a request's slot, its terminal responses included;
* `Slot.WithinBudget.onToken`: one generated token keeps it, and so does every other slot step;
* **`run_withinBudget`**: over every run whose requests are admitted with
  `min_new_tokens ≤ max_new_tokens`, every entry in flight has generated no token or fewer than its
  maximum, so `max_new_tokens - generated_tokens` in `log_new_batch` does not wrap and
  `generated_tokens += 1` does not overflow, and every terminal response reports at most
  `max(1, max_new_tokens)` tokens.
-/

import Batching.Runs
import Batching.Completion

namespace Batching

variable {σ : Type} {dec : Decoder σ}

/-- Requests admitted with a minimum number of new tokens no larger than their maximum. -/
def Event.Ordered : Event σ → Prop
  | .enter _ e => e.params.minNewTokens ≤ e.params.maxNewTokens
  | _ => True

/-- Counting one more token of an entry that has generated none, or fewer than `m`, does not
wrap and reaches at most `max(1, m)`. -/
theorem count_within {g m : UInt32} (within : g = 0 ∨ g < m) :
    (g + 1).toNat = g.toNat + 1 ∧ g.toNat + 1 ≤ max 1 m.toNat := by
  rcases within with rfl | below
  · exact ⟨rfl, le_max_left 1 _⟩
  · have bounded := UInt32.toNat_lt_size m
    rw [uint32_lt_iff_toNat_lt] at below
    exact ⟨uint32_toNat_add_one (by omega), by omega⟩

/-- What the budget says of the slot of a request admitted as `e₀`. -/
structure Slot.WithinBudget (e₀ : Entry σ) (s : Slot σ) : Prop where
  ordered : e₀.params.minNewTokens ≤ e₀.params.maxNewTokens
  entry : ∀ e, s.entry = some e →
    e.request = e₀.request ∧ (e.generatedTokens = 0 ∨ e.generatedTokens < e₀.params.maxNewTokens)
  terminal : ∀ r, .ok r ∈ s.sent → r.reason ≠ .notFinished →
    r.genTokenCount.toNat ≤ max 1 e₀.params.maxNewTokens.toNat

namespace Slot.WithinBudget

variable {e₀ : Entry σ} {s s' : Slot σ}

/-- Messages that carry no stop reason keep the bound on terminal responses. -/
theorem terminal_append (within : s.WithinBudget e₀) {sent : List Reply}
    (quiet : ∀ r, .ok r ∈ sent → r.reason = .notFinished) :
    ∀ r, .ok r ∈ s.sent ++ sent → r.reason ≠ .notFinished →
      r.genTokenCount.toNat ≤ max 1 e₀.params.maxNewTokens.toNat := by
  intro r member stopped
  rcases List.mem_append.mp member with old | new
  · exact within.terminal r old stopped
  · exact absurd (quiet r new) stopped

theorem onInput (within : s.WithinBudget e₀) {tokens : List Token}
    (done : s.onInput tokens = some s') : s'.WithinBudget e₀ := by
  obtain ⟨e, present, -, ⟨-, rfl⟩ | ⟨-, rfl⟩⟩ := onInput_eq_some done
  · exact ⟨within.ordered, within.entry,
      within.terminal_append (by simp [InferResponse.streamInputInfo])⟩
  · refine ⟨within.ordered, fun e' found => ?_, within.terminal⟩
    cases found
    exact within.entry e present

/-- **One generated token keeps the budget**: an entry that stays is below its maximum, and a
terminal response counts the token it answers. -/
theorem onToken (within : s.WithinBudget e₀) {now : Nat} {output : Token}
    (done : s.onToken dec now output = some s') : s'.WithinBudget e₀ := by
  obtain ⟨e, outcome, present, stepped, rfl⟩ := onToken_eq_some done
  obtain ⟨request, counted⟩ := within.entry e present
  have params : e.params = e₀.params := by rw [Entry.params, request]
  cases outcome with
  | keep e' sent =>
    obtain ⟨text, -, -, answered⟩ := Entry.onToken_keep stepped
    refine ⟨within.ordered, fun e'' found => ?_, within.terminal_append ?_⟩
    · cases found
      refine ⟨(Entry.onToken_keep_frame stepped).1.trans request, .inr ?_⟩
      rcases params ▸ Entry.onToken_keep_lt stepped with belowMin | belowMax
      · exact uint32_lt_of_lt_of_le belowMin within.ordered
      · exact belowMax
    · rcases answered with ⟨-, -, rfl⟩ | ⟨-, -, rfl⟩ <;> simp [InferResponse.streamInprog]
  | remove sent =>
    refine ⟨within.ordered, (fun _ found => by cases found), ?_⟩
    rcases Entry.onToken_remove stepped with
      ⟨err, -, rfl⟩ | ⟨e', text, decoded, ⟨reason, r, -, -, final, rfl⟩ | ⟨-, -, ⟨-, rfl⟩ | ⟨-, -, rfl⟩⟩⟩
    · exact within.terminal_append (by simp)
    · intro r' member stopped
      rcases List.mem_append.mp member with old | new
      · exact within.terminal r' old stopped
      · obtain rfl := List.mem_singleton.mp new
        rcases Entry.finalResponse_shape final with ⟨message, impossible⟩ | ⟨response, answer, -, count, -⟩
        · cases impossible
        · cases answer
          have next := count_within counted
          rw [count, (Entry.decode_record decoded).2.2, next.1]
          exact next.2
    · exact within.terminal_append (by simp [InferResponse.streamInprog])
    · exact within.terminal_append (by simp)

theorem onError (within : s.WithinBudget e₀) {message : String}
    (done : s.onError message = some s') : s'.WithinBudget e₀ := by
  obtain ⟨e, -, rfl⟩ := onError_eq_some done
  exact ⟨within.ordered, (fun _ found => by cases found), within.terminal_append (by simp)⟩

theorem onFailure (within : s.WithinBudget e₀) (error : ClientError) (keep : Bool) :
    (s.onFailure error keep).WithinBudget e₀ := by
  unfold Slot.onFailure
  split
  · exact ⟨within.ordered, (fun _ found => by cases found), within.terminal_append (by simp)⟩
  · exact within

/-- An admitted request starts within its budget. -/
theorem enter {e : Entry σ} {id : Nat} (fresh : e.Fresh) (ordered : (Event.enter id e).Ordered)
    (closed : Bool) : Slot.WithinBudget e ⟨some e, e.firstMessages, closed⟩ :=
  ⟨ordered, fun e' found => by cases found; exact ⟨rfl, .inl fresh.generatedTokens⟩,
    fun r member stopped => absurd (e.firstMessages_quiet r member) stopped⟩

theorem onCall (within : s.WithinBudget e₀) {clock : Nat → Nat}
    {result : TokenProcessor.CallResult} {startId : Option Nat} {id : Nat}
    (done : s.onCall dec clock result startId id = some s') : s'.WithinBudget e₀ :=
  Slot.onCall_preserves (P := fun _ s => s.WithinBudget e₀)
    (fun _ _ _ _ within => within.onInput) (fun _ _ _ _ _ _ within => within.onToken)
    (fun _ _ _ _ within => within.onError) (fun _ error keep _ within => within.onFailure error keep)
    [] within done

end Slot.WithinBudget

/-- **The budget holds after every run** whose requests are admitted with
`min_new_tokens ≤ max_new_tokens`: no count wraps, and no terminal response counts more than
`max(1, max_new_tokens)` tokens. -/
theorem run_withinBudget {history : List (Event σ)} {p : TokenProcessor σ}
    (run : Run dec Event.Ordered history p) :
    (∀ id e, p.entries.get id = some e →
      (e.generatedTokens = 0 ∨ e.generatedTokens < e.params.maxNewTokens) ∧
      (e.params.maxNewTokens - e.generatedTokens).toNat =
        e.params.maxNewTokens.toNat - e.generatedTokens.toNat ∧
      (e.generatedTokens + 1).toNat = e.generatedTokens.toNat + 1) ∧
    ∀ id e₀ r, admitted history id = some e₀ → .ok r ∈ p.sent id → r.reason ≠ .notFinished →
      r.genTokenCount.toNat ≤ max 1 e₀.params.maxNewTokens.toNat := by
  have slots : ∀ id e₀, admitted history id = some e₀ → (p.slot id).WithinBudget e₀ :=
    fun id => run.admittedSlots (J := fun e₀ _ s => s.WithinBudget e₀)
      (fun _ closed fresh ordered => .enter fresh ordered closed)
      (fun _ _ _ within => ⟨within.ordered, within.entry, within.terminal⟩)
      (fun _ _ _ _ _ _ _ _ within done => within.onCall done)
  refine ⟨fun id e present => ?_, fun id e₀ r found => (slots id e₀ found).terminal r⟩
  cases found : admitted history id with
  | none => rw [(run.unadmitted found).1] at present; cases present
  | some e₀ =>
    obtain ⟨request, within⟩ := (slots id e₀ found).entry e present
    rw [Entry.params, request]
    refine ⟨within, UInt32.toNat_sub_of_le _ _ ?_, (count_within within).1⟩
    rcases within with zero | below
    · rw [zero]
      exact Nat.zero_le _
    · exact Nat.le_of_lt below

/-- Request 1 admitted, then given one token. -/
def oneTokenRun : TokenProcessor Text :=
  (((TokenProcessor.initial false).enter 1 TokenProcessor.plainEntry).apply byteDecoder
    (.call (fun _ => 0) (.ok (some ([⟨1, 7⟩], [], [], 1))) none)).getD (TokenProcessor.initial false)

/-- After request 1 was admitted and given one token, the budget holds. -/
theorem run_withinBudget_one_token :
    (∀ id e, oneTokenRun.entries.get id = some e →
      (e.generatedTokens = 0 ∨ e.generatedTokens < e.params.maxNewTokens) ∧
      (e.params.maxNewTokens - e.generatedTokens).toNat =
        e.params.maxNewTokens.toNat - e.generatedTokens.toNat ∧
      (e.generatedTokens + 1).toNat = e.generatedTokens.toNat + 1) ∧
    ∀ id e₀ r, admitted [.enter 1 TokenProcessor.plainEntry,
        .call (fun _ => 0) (.ok (some ([⟨1, 7⟩], [], [], 1))) none] id = some e₀ →
      .ok r ∈ oneTokenRun.sent id → r.reason ≠ .notFinished →
      r.genTokenCount.toNat ≤ max 1 e₀.params.maxNewTokens.toNat :=
  by
  have admitted : Run byteDecoder Event.Ordered [.enter 1 TokenProcessor.plainEntry]
      ((TokenProcessor.initial false).enter 1 TokenProcessor.plainEntry) :=
    .step (.start false) ⟨rfl, rfl, rfl, rfl, rfl, rfl⟩ (by unfold Event.Ordered; decide) rfl
  exact run_withinBudget (.step admitted trivial trivial rfl)

end Batching
