/-
**What a backend call does to the in-flight map.**

`wrap_future` hands a successful call's input tokens to `process_input_tokens` and its tokens and
per-request errors to `process_next_tokens`; a failed call goes to `send_errors`. Seen from the
map's keys, a call with no per-request error is simple: the requests it does not name stay as
they were, and of the requests it names, those still in flight are exactly those the server keeps
after the status the call returns.

* `Entry.steppable`: the checks under which an entry's token step never panics, which every call
  keeps (`TokenProcessor.wrapFuture_steppable`);
* `TokenProcessor.wrapFuture_keeps_unnamed`: an answered call keeps every request it returns
  neither a token nor an error for;
* **`TokenProcessor.wrapFuture_answered`**: a call answering distinct requests in flight with one
  token each, and input tokens for requests with no token yet, does not panic, keeps every
  request it does not name, and reports a status after which the server keeps exactly the named
  requests still in flight.
-/

import Batching.Completion
import Batching.Runs

namespace Batching

variable {σ : Type}

/-! ### Entries whose steps never panic -/

/-- The checks under which an entry's token step never panics: no stop sequence is empty, and
the batch time is stamped (`Times::from` unwraps it). -/
def Entry.steppable (e : Entry σ) : Bool :=
  e.params.stopSeqs.all (fun s => !s.isEmpty) && e.batchTime.isSome

theorem Entry.steppable_iff {e : Entry σ} :
    e.steppable = true ↔ (∀ s ∈ e.params.stopSeqs, s ≠ []) ∧ e.batchTime.isSome = true := by
  simp [Entry.steppable, List.isEmpty_iff]

/-- An entry that stays is as steppable as before. -/
theorem Entry.onToken_keep_steppable {dec : Decoder σ} {now : Nat} {closed : Bool} {e e' : Entry σ}
    {output : Token} {sent : List Reply}
    (kept : e.onToken dec now closed output = some (.keep e' sent)) :
    e'.steppable = e.steppable := by
  simp only [Entry.steppable, Entry.params, (Entry.onToken_keep_frame kept).1,
    Entry.onToken_keep_batchTime kept]

/-- Every entry the slot holds is steppable. -/
def Slot.Steppable (s : Slot σ) : Prop := ∀ e, s.entry = some e → e.steppable = true

/-- Input tokens keep a slot steppable. -/
theorem Slot.onInput_steppable {tokens : List Token} {s s' : Slot σ} (holds : s.Steppable)
    (done : s.onInput tokens = some s') : s'.Steppable := by
  obtain ⟨e, present, -, ⟨-, rfl⟩ | ⟨-, rfl⟩⟩ := onInput_eq_some done
  · exact holds
  · rintro _ ⟨⟩
    exact holds e present

/-- **Every call keeps the slots steppable**: a token step keeps the request and the batch time
of an entry that stays, input tokens only fill the entry's prompt, and every other step empties
the slot or leaves it alone. -/
theorem Slot.onCall_steppable {dec : Decoder σ} {clock : Nat → Nat}
    {result : TokenProcessor.CallResult} {startId : Option Nat} {id : Nat} {s s' : Slot σ}
    (holds : s.Steppable) (done : onCall dec clock result startId id s = some s') :
    s'.Steppable := by
  simpa using onCall_preserves (P := fun _ s => s.Steppable)
    (fun _ _ _ _ holds done => onInput_steppable holds done)
    (fun _ now output s s' _ holds done => by
      obtain ⟨e, outcome, present, stepped, rfl⟩ := onToken_eq_some done
      cases outcome with
      | keep e' sent =>
        rintro _ ⟨⟩
        rw [Entry.onToken_keep_steppable stepped]
        exact holds e present
      | remove sent => rintro _ ⟨⟩)
    (fun _ message s s' _ done => by
      rintro _ found
      rw [onError_entry done] at found
      cases found)
    (fun _ error keep s holds => by
      unfold onFailure
      split
      · rintro _ ⟨⟩
      · exact holds)
    [] holds done

theorem TokenProcessor.wrapFuture_steppable {p q : TokenProcessor σ} {dec : Decoder σ}
    {clock : Nat → Nat} {result : TokenProcessor.CallResult} {startId : Option Nat}
    {batch : Option CachedBatch} (done : p.wrapFuture dec clock result startId = some (q, batch))
    (holds : ∀ id, (p.slot id).Steppable) (id : Nat) : (q.slot id).Steppable :=
  Slot.onCall_steppable (holds id) (TokenProcessor.wrapFuture_slot done id)


/-! ### The map after an answered call -/

namespace Slot

variable {s s' : Slot σ}

/-- Input tokens fill the entry's prompt or go to its stream: the slot keeps its entry. -/
theorem onInput_entry_isSome {tokens : List Token} (done : s.onInput tokens = some s') :
    s'.entry.isSome = s.entry.isSome := by
  obtain ⟨e, present, -, ⟨-, rfl⟩ | ⟨-, rfl⟩⟩ := onInput_eq_some done <;> simp [present]

theorem afterInputs_entry_isSome {inputs : List InputTokens} {id : Nat}
    (done : afterInputs inputs id s = some s') : s'.entry.isSome = s.entry.isSome := by
  simpa using foldlM_induction (P := fun _ s' => s'.entry.isSome = s.entry.isSome) _
    (fun _ input _ s₁ s₂ holds step => (onInput_entry_isSome step).trans holds) [] rfl done

theorem afterInputs_steppable {inputs : List InputTokens} {id : Nat} (holds : s.Steppable)
    (done : afterInputs inputs id s = some s') : s'.Steppable := by
  simpa using foldlM_induction (P := fun _ s => s.Steppable) _
    (fun _ _ _ _ _ holds step => onInput_steppable holds step) [] holds done

end Slot

namespace TokenProcessor

variable {p q : TokenProcessor σ}

/-- The input-tokens loop keeps every key. -/
theorem processInputTokens_mem_keys {inputs : List InputTokens}
    (done : p.processInputTokens inputs = some q) (id : Nat) :
    id ∈ q.entries.keys ↔ id ∈ p.entries.keys := by
  have same := Slot.afterInputs_entry_isSome (processInputTokens_slot done id)
  simp only [slot_entry] at same
  rw [q.entries.mem_keys, p.entries.mem_keys, same]

/-- The input-tokens loop over distinct requests, each in flight with no token yet, does not
panic. -/
theorem processInputTokens_isSome {inputs : List InputTokens}
    (distinct : (inputs.map InputTokens.requestId).Nodup)
    (unstarted : ∀ input ∈ inputs, ∃ e, p.entries.get input.requestId = some e ∧
      e.generatedTokens = 0) :
    (p.processInputTokens inputs).isSome :=
  local_processInput.foldlM_isSome distinct fun input member => by
    obtain ⟨e, present, zero⟩ := unstarted input member
    cases channel : e.channel <;> simp [Slot.onInput, present, zero, channel]

/-- **An answered call keeps every request it returns neither a token nor an error for.** -/
theorem wrapFuture_keeps_unnamed {dec : Decoder σ} {clock : Nat → Nat}
    {generated : List Token} {inputs : List InputTokens}
    {errors : List GenerateError} {nextBatchId : Nat} {startId : Option Nat}
    {batch : Option CachedBatch}
    (done : p.wrapFuture dec clock (.ok (some (generated, inputs, errors, nextBatchId))) startId =
      some (q, batch))
    {id : Nat} (noOutput : id ∉ generated.map Token.requestId)
    (noError : id ∉ errors.map GenerateError.requestId) (before : id ∈ p.entries.keys) :
    id ∈ q.entries.keys := by
  obtain ⟨s₁, inputsDone, tokensDone⟩ := Option.bind_eq_some.mp (wrapFuture_slot done id)
  rw [Slot.afterTokens_unnamed noOutput noError] at tokensDone
  have kept := Slot.afterInputs_entry_isSome inputsDone
  rw [Option.some.inj tokensDone, slot_entry, slot_entry] at kept
  rw [q.entries.mem_keys, kept, ← p.entries.mem_keys]
  exact before

/-- **An answered call with no per-request error** on distinct requests in flight does not panic,
keeps every request it does not name, and reports a status after which the server keeps exactly
the named requests still in flight. -/
theorem wrapFuture_answered (dec : Decoder σ) (clock : Nat → Nat) (ends : dec.EndsWithPieces)
    (steppable : ∀ id, (p.slot id).Steppable) {generated : List Token}
    {inputs : List InputTokens} (nextBatchId : Nat) (startId : Option Nat)
    (distinct : (generated.map Token.requestId).Nodup)
    (known : ∀ id ∈ generated.map Token.requestId, id ∈ p.entries.keys)
    (inputsDistinct : (inputs.map InputTokens.requestId).Nodup)
    (unstarted : ∀ input ∈ inputs, ∃ e, p.entries.get input.requestId = some e ∧
      e.generatedTokens = 0) :
    ∃ q status, p.wrapFuture dec clock (.ok (some (generated, inputs, [], nextBatchId))) startId =
        some (q, some ⟨nextBatchId, status⟩) ∧
      (∀ id ∉ generated.map Token.requestId, id ∈ q.entries.keys ↔ id ∈ p.entries.keys) ∧
      (status.map fun completed => (generated.map Token.requestId).filter (· ∉ completed)).getD [] =
        (generated.map Token.requestId).filter (· ∈ q.entries.keys) := by
  obtain ⟨p₁, inputsDone⟩ := Option.isSome_iff_exists.mp
    (processInputTokens_isSome inputsDistinct unstarted)
  have keys₁ := processInputTokens_mem_keys inputsDone
  have steppable₁ : ∀ id e, p₁.entries.get id = some e → e.steppable = true := fun id =>
    Slot.afterInputs_steppable (steppable id) (processInputTokens_slot inputsDone id)
  have named : (generated.map Token.requestId ++ ([] : List GenerateError).map
      GenerateError.requestId).Nodup := by simpa using distinct
  obtain ⟨⟨q, completed⟩, tokensDone⟩ := Option.isSome_iff_exists.mp
    (processNextTokens_isSome_of_known dec clock p₁ named
      (fun id member => (keys₁ id).mpr (known id (by simpa using member)))
      (fun id e present => (Entry.steppable_iff.mp (steppable₁ id e present)).1)
      (fun id e present => (Entry.steppable_iff.mp (steppable₁ id e present)).2) ends)
  refine ⟨{ q with generationHealth := true }, completed,
    by simp [wrapFuture, inputsDone, tokensDone], fun id unnamed => ?_, ?_⟩
  · have same := processNextTokens_slot tokensDone id
    rw [Slot.afterTokens_unnamed unnamed (by simp)] at same
    have entries := congrArg Slot.entry (Option.some.inj same)
    simp only [slot_entry] at entries
    rw [← keys₁ id, q.entries.mem_keys, p₁.entries.mem_keys, entries]
  · rw [processNextTokens_completed named tokensDone]
    simp only [List.map_nil, List.append_nil]
    split
    · rename_i all
      refine (List.filter_eq_nil_iff.mpr fun id member kept => ?_).symm
      have gone := List.filter_length_eq_length.mp (all.trans (List.length_map _ _).symm) id member
      simp only [Option.isNone_iff_eq_none, q.entries.get_eq_none_iff] at gone
      exact gone (of_decide_eq_true kept)
    · refine List.filter_congr fun id member => ?_
      simp only [decide_eq_decide, List.mem_filter, member, true_and, q.entries.mem_keys]
      cases (q.entries.get id) <;> simp

end TokenProcessor

end Batching
