/-
**What a client's going away costs.**

When a client drops the receiving end of its request's channel, the batching loop notices only
at a token of that request (lines 666-683): a stream when its in-progress message cannot be sent,
so at the next token; a unary request only when its count is a multiple of 16, since
`is_closed()` is an atomic access the loop makes every sixteenth token. Until then the backend
goes on generating for the request.

So a request whose receiver is gone gets at most one more token if it is a stream, and at most 16
if it is unary, whenever in the run the receiver went, before or after the request was admitted:
once the loop removes it, no call of the run names it again, since a call that did would panic.

* `Slot.CancelledWithin`: what a close says of a request's slot, given the tokens returned for it
  since: the receiver is gone, a stream in flight has had no token since, a unary entry in flight
  fewer than its count is past a multiple of 16;
* `Slot.CancelledWithin.onToken` and the other slot steps keep it;
* `Run.cancelledSlot`: after every close in a run, the request's slot stays closed and keeps it;
* **`run_cancelledWithin`**: over every run, the tokens returned for a request after a close of its
  receiver are at most 16 for a unary request and at most one for a stream.
-/

import Batching.Accumulation

namespace Batching

variable {σ : Type} {dec : Decoder σ}

/-- Adding one to a `u32`, with its wrap-around. -/
theorem uint32_toNat_succ (a : UInt32) : (a + 1).toNat = (a.toNat + 1) % 4294967296 := by
  show (a.toBitVec + 1#32).toNat = _
  rw [BitVec.toNat_add]
  rfl

/-- How many tokens a request whose receiver is gone may still get: one for a stream, which the
loop cancels at its next in-progress message, and 16 for a unary request, whose receiver the loop
looks at every sixteenth token. -/
def ReplyChannel.cancelBound : ReplyChannel → Nat
  | .unary => 16
  | .stream => 1

/-- What a close says of the slot of a request admitted as `e₀`, given the tokens `since` returned
for it after the close. -/
structure Slot.CancelledWithin (e₀ : Entry σ) (since : List Token) (s : Slot σ) : Prop where
  closed : s.closed = true
  entry : ∀ e, s.entry = some e → e.channel = e₀.channel ∧
    (e.channel = .unary → since.length ≤ e.generatedTokens.toNat % 16) ∧
    (e.channel = .stream → since = [])
  bound : since.length ≤ e₀.channel.cancelBound

namespace Slot.CancelledWithin

variable {e₀ : Entry σ} {since : List Token} {s s' : Slot σ}

/-- Once the entry has left, only the bound is left to keep. -/
theorem vacant {closed : Bool} {sent : List Reply} (gone : closed = true)
    (bound : since.length ≤ e₀.channel.cancelBound) :
    Slot.CancelledWithin e₀ since ⟨none, sent, closed⟩ :=
  ⟨gone, fun _ found => (by cases found), bound⟩

theorem onInput (cancelled : s.CancelledWithin e₀ since) {tokens : List Token}
    (done : s.onInput tokens = some s') : s'.CancelledWithin e₀ since := by
  obtain ⟨e, present, -, ⟨-, rfl⟩ | ⟨-, rfl⟩⟩ := onInput_eq_some done
  · exact ⟨cancelled.closed, cancelled.entry, cancelled.bound⟩
  · refine ⟨cancelled.closed, fun e' found => ?_, cancelled.bound⟩
    cases found
    exact cancelled.entry e present

/-- **One generated token of a request whose receiver is gone**: a stream leaves at it, and a unary
entry leaves at it when its count reaches a multiple of 16, so one that stays is one token further
past a multiple of 16. -/
theorem onToken (cancelled : s.CancelledWithin e₀ since) {now : Nat} {output : Token}
    (done : s.onToken dec now output = some s') :
    s'.CancelledWithin e₀ (since ++ [output]) := by
  obtain ⟨e, outcome, present, stepped, rfl⟩ := onToken_eq_some done
  obtain ⟨channel, unaryCount, streamNone⟩ := cancelled.entry e present
  have room := UInt32.toNat_lt_size e.generatedTokens
  have bound : (since ++ [output]).length ≤ e₀.channel.cancelBound := by
    rw [List.length_append, List.length_singleton, ← channel]
    cases kind : e.channel
    · have := unaryCount kind
      simp only [ReplyChannel.cancelBound]
      omega
    · simp [streamNone kind, ReplyChannel.cancelBound]
  cases outcome with
  | keep e' sent =>
    obtain ⟨text, -, -, ⟨-, open_, -⟩ | ⟨unary, unseen, -⟩⟩ := Entry.onToken_keep stepped
    · rw [cancelled.closed] at open_
      cases open_
    · have frame := Entry.onToken_keep_frame stepped
      have counted := Entry.onToken_keep_generatedTokens stepped
      have notSixteenth : e'.generatedTokens.toNat % 16 ≠ 0 := fun sixteenth =>
        unseen ⟨UInt32.toNat.inj (by rw [UInt32.toNat_mod]; exact sixteenth), cancelled.closed⟩
      refine ⟨cancelled.closed, fun e'' found => ?_, bound⟩
      cases found
      refine ⟨frame.2.trans channel, fun _ => ?_, fun stream => by rw [unary] at stream; cases stream⟩
      have before := unaryCount (frame.2.symm.trans unary)
      rw [counted, uint32_toNat_succ] at notSixteenth ⊢
      rw [List.length_append, List.length_singleton]
      omega
  | remove sent => exact vacant cancelled.closed bound

theorem onError (cancelled : s.CancelledWithin e₀ since) {message : String}
    (done : s.onError message = some s') : s'.CancelledWithin e₀ since := by
  obtain ⟨e, -, rfl⟩ := onError_eq_some done
  exact vacant cancelled.closed cancelled.bound

theorem onFailure (cancelled : s.CancelledWithin e₀ since) (error : ClientError) (keep : Bool) :
    (s.onFailure error keep).CancelledWithin e₀ since := by
  unfold Slot.onFailure
  split
  · exact vacant cancelled.closed cancelled.bound
  · exact cancelled

/-- Another close of the receiver changes nothing. -/
theorem close (cancelled : s.CancelledWithin e₀ since) :
    Slot.CancelledWithin e₀ since { s with closed := true } :=
  ⟨rfl, cancelled.entry, cancelled.bound⟩

theorem onCall (cancelled : s.CancelledWithin e₀ since) {clock : Nat → Nat}
    {result : TokenProcessor.CallResult} {startId : Option Nat} {id : Nat}
    (done : s.onCall dec clock result startId id = some s') :
    s'.CancelledWithin e₀ (since ++ (Event.call (σ := σ) clock result startId).returned id) :=
  Slot.onCall_preserves (P := fun since s => s.CancelledWithin e₀ since)
    (fun _ _ _ _ cancelled => cancelled.onInput)
    (fun _ _ _ _ _ _ cancelled => cancelled.onToken)
    (fun _ _ _ _ cancelled => cancelled.onError)
    (fun _ error keep _ cancelled => cancelled.onFailure error keep) _ cancelled done

end Slot.CancelledWithin

/-! ### Over runs -/

/-- The tokens returned for a request over two stretches of a run are those of each. -/
theorem returned_split (before after : List (Event σ)) (ev : Event σ) (id : Nat) :
    returned (before ++ ev :: after) id = returned before id ++ ev.returned id ++ returned after id := by
  simp [returned, List.flatMap_append]

variable {allowed : Event σ → Prop}

/-- An entry in flight keeps the channel its request was admitted with. -/
theorem Run.slot_channel {history : List (Event σ)} {p : TokenProcessor σ}
    (run : Run dec allowed history p) {id : Nat} {e₀ e : Entry σ}
    (found : admitted history id = some e₀) (present : (p.slot id).entry = some e) :
    e.channel = e₀.channel :=
  ((run.accumulatingSlot found).entry e present).2.1

/-- **After a close of a request's receiver** the receiver stays gone, and the request's slot
keeps `CancelledWithin` for the tokens returned since. -/
theorem Run.cancelledSlot {history : List (Event σ)} {p : TokenProcessor σ}
    (run : Run dec allowed history p) {id : Nat} :
    ∀ {before after : List (Event σ)}, history = before ++ .close id :: after →
      (p.slot id).closed = true ∧
        ∀ e₀, admitted history id = some e₀ → (p.slot id).CancelledWithin e₀ (returned after id) := by
  induction run with
  | start => intro before after split; simp at split
  | @step history p q ev run queued _ applied ih =>
    intro before after split
    rw [admitted_append]
    rcases split_snoc split with ⟨rfl, rfl, rfl⟩ | ⟨after, rfl, rfl⟩
    · -- the close itself
      cases applied
      rw [TokenProcessor.slot_close, if_pos rfl]
      refine ⟨rfl, fun e₀ found => ⟨rfl, fun e present => ?_, Nat.zero_le _⟩⟩
      exact ⟨run.slot_channel (by simpa [Event.admits] using found) present,
        fun _ => Nat.zero_le _, fun _ => rfl⟩
    · obtain ⟨closed, cancelled⟩ := ih rfl
      rw [returned_append]
      cases ev with
      | enter k e =>
        cases applied
        rw [TokenProcessor.slot_enter]
        by_cases same : id = k
        · -- an admission after the close: nothing was returned for the request
          subst same
          have none := (run.unadmitted queued.1).2.2
          rw [returned_split, List.append_eq_nil, List.append_eq_nil] at none
          simp only [if_pos, queued.1, Option.none_or, Event.admits, Option.some.injEq,
            Event.returned, none.2, List.append_nil]
          refine ⟨closed, fun e₀ found => ?_⟩
          subst found
          exact ⟨closed, fun e' found => by cases found; exact ⟨rfl, fun _ => Nat.zero_le _,
            fun _ => rfl⟩, Nat.zero_le _⟩
        · simp only [if_neg same, Event.admits, if_neg (Ne.symm same), Option.or_none,
            Event.returned, List.append_nil]
          exact ⟨closed, cancelled⟩
      | close k =>
        cases applied
        rw [TokenProcessor.slot_close]
        simp only [Event.admits, Option.or_none, Event.returned, List.append_nil]
        split_ifs
        · exact ⟨rfl, fun e₀ found => (cancelled e₀ found).close⟩
        · exact ⟨closed, cancelled⟩
      | call clock result startId =>
        obtain ⟨⟨q', batch⟩, done, rfl⟩ := Option.map_eq_some'.mp applied
        have stepped := TokenProcessor.wrapFuture_slot done id
        simp only [Event.admits, Option.or_none]
        cases found : admitted (before ++ .close id :: after) id with
        | none =>
          obtain ⟨same, nothing⟩ := Slot.onCall_vacant (run.unadmitted found).1 stepped
          rw [same, nothing]
          exact ⟨closed, fun _ unadmitted => by cases unadmitted⟩
        | some e₀ =>
          have kept := (cancelled e₀ found).onCall stepped
          exact ⟨kept.closed, fun _ same => by cases same; exact kept⟩

/-- **A request whose receiver is gone gets at most 16 more tokens if it is unary and at most one if
it is a stream**, over every run and whenever in it the receiver went: counting every token
returned for the request after the close. -/
theorem run_cancelledWithin {history : List (Event σ)} {p : TokenProcessor σ}
    (run : Run dec allowed history p) {before after : List (Event σ)} {id : Nat}
    (split : history = before ++ .close id :: after) {e₀ : Entry σ}
    (found : admitted history id = some e₀) :
    (returned after id).length ≤ e₀.channel.cancelBound :=
  ((run.cancelledSlot split).2 e₀ found).bound

/-- A unary request admitted, its receiver dropped, and a call that returns its end-of-sequence
token. -/
theorem closedAnswered_cancelledWithin :
    (returned [Event.call (σ := Text) (fun _ => 0) (.ok (some ([⟨1, 0⟩], [], [], 1))) none] 1).length ≤
      TokenProcessor.plainEntry.channel.cancelBound :=
  have admitted : Run byteDecoder (fun _ => True) [.enter 1 TokenProcessor.plainEntry]
      ((TokenProcessor.initial false).enter 1 TokenProcessor.plainEntry) :=
    .step (.start false) ⟨rfl, rfl, rfl, rfl, rfl, rfl⟩ trivial rfl
  have split : [.enter 1 TokenProcessor.plainEntry, .close 1,
        .call (fun _ => 0) (.ok (some ([⟨1, 0⟩], [], [], 1))) none] =
      [Event.enter 1 TokenProcessor.plainEntry] ++
        .close 1 :: [.call (fun _ => 0) (.ok (some ([⟨1, 0⟩], [], [], 1))) none] := rfl
  have closed : Run byteDecoder (fun _ => True) [.enter 1 TokenProcessor.plainEntry, .close 1] _ :=
    .step admitted trivial trivial rfl
  have run : Run byteDecoder (fun _ => True) [.enter 1 TokenProcessor.plainEntry, .close 1,
      .call (fun _ => 0) (.ok (some ([⟨1, 0⟩], [], [], 1))) none] _ :=
    .step closed trivial trivial rfl
  run_cancelledWithin run split rfl

end Batching
