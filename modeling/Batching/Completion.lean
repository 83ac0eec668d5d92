/-
**What `process_next_tokens` removes and reports.**

`process_next_tokens` answers each generated token and each per-request error, removes the
entries that end, and reports them to `wrap_future`, which builds the next `CachedBatch` from
the report: the list of completed ids, or `None` for "every request of this call completed".

* **`processNextTokens_bookkeeping`**: over ids distinct across both lists and all in flight,
  with non-empty stop sequences, stamped batch times and a decoder whose text ends with what it
  returns, the call does not panic, removes only ids it names, leaves every other slot alone,
  counts one more token for every output whose entry stays, and a reported list holds each
  removed id once and nothing else;
* `processNextTokens_unstamped_panics`: the stamped batch time is needed, since a terminal
  response unwraps it in `Times::from` (line 726);
* `processNextTokens_none_while_in_flight`: the `None` report compares the completed ids, per-
  request errors included, with the number of outputs alone (line 709), so it is given while an
  entry of the call is still in flight.
-/

import Batching.Slots
import Batching.TokenStep

namespace Batching

variable {σ : Type}

namespace TokenProcessor

/-- The slot of every output and error is where the call's step applies to it. -/
theorem processNextTokens_isSome (dec : Decoder σ) (clock : Nat → Nat) (p : TokenProcessor σ)
    {outputs : List Token} {errors : List GenerateError}
    (distinct : (outputs.map Token.requestId ++ errors.map GenerateError.requestId).Nodup)
    (tokens : ∀ output ∈ outputs,
      (Slot.onToken dec (clock output.requestId) output (p.slot output.requestId)).isSome)
    (present : ∀ error ∈ errors, (p.entries.get error.requestId).isSome) :
    (p.processNextTokens dec clock outputs errors).isSome := by
  obtain ⟨outputsDistinct, errorsDistinct, apart⟩ := List.nodup_append.mp distinct
  obtain ⟨⟨p₁, c₁⟩, first⟩ := Option.isSome_iff_exists.mp
    ((collects_processOutput dec clock).local.foldlM_isSome (s := (p, [])) outputsDistinct tokens)
  have errorsDone := collects_processError.local.foldlM_isSome (s := (p₁, c₁)) errorsDistinct
    fun error member => by
      have kept := ((collects_processOutput dec clock).local.foldlM_exact outputsDistinct first
        error.requestId).1 fun inOutputs =>
          apart inOutputs (List.mem_map_of_mem GenerateError.requestId member)
      simp only at kept
      exact Slot.onError_isSome (by rw [kept]; exact present error member)
  obtain ⟨⟨q, c₂⟩, second⟩ := Option.isSome_iff_exists.mp errorsDone
  simp [processNextTokens, first, second]

/-- With every named id in flight, non-empty stop sequences, stamped batch times and a decoder
whose text ends with what it returns, the call does not panic. -/
theorem processNextTokens_isSome_of_known (dec : Decoder σ) (clock : Nat → Nat)
    (p : TokenProcessor σ) {outputs : List Token} {errors : List GenerateError}
    (distinct : (outputs.map Token.requestId ++ errors.map GenerateError.requestId).Nodup)
    (known : ∀ id ∈ outputs.map Token.requestId ++ errors.map GenerateError.requestId,
      id ∈ p.entries.keys)
    (nonempty : ∀ id e, p.entries.get id = some e → ∀ s ∈ e.params.stopSeqs, s ≠ [])
    (stamped : ∀ id e, p.entries.get id = some e → e.batchTime.isSome)
    (ends : dec.EndsWithPieces) :
    (p.processNextTokens dec clock outputs errors).isSome := by
  have entryOf : ∀ id ∈ outputs.map Token.requestId ++ errors.map GenerateError.requestId,
      ∃ e, p.entries.get id = some e := fun id member =>
    Option.isSome_iff_exists.mp ((p.entries.mem_keys id).mp (known id member))
  refine processNextTokens_isSome dec clock p distinct (fun output member => ?_)
    (fun error member => ?_)
  · obtain ⟨e, present⟩ := entryOf output.requestId
      (List.mem_append_left _ (List.mem_map_of_mem _ member))
    exact Slot.onToken_isSome present (Entry.onToken_isSome _ _ output
      (nonempty _ e present) (stamped _ e present) ends)
  · obtain ⟨e, present⟩ := entryOf error.requestId
      (List.mem_append_right _ (List.mem_map_of_mem _ member))
    simp [present]

/-- **`process_next_tokens` keeps its books**: it does not panic, removes only ids it names,
leaves every other slot alone, counts one more token for every output whose entry stays, and
reports each removed id once. -/
theorem processNextTokens_bookkeeping (dec : Decoder σ) (clock : Nat → Nat) (p : TokenProcessor σ)
    (outputs : List Token) (errors : List GenerateError)
    (distinct : (outputs.map Token.requestId ++ errors.map GenerateError.requestId).Nodup)
    (known : ∀ id ∈ outputs.map Token.requestId ++ errors.map GenerateError.requestId,
      id ∈ p.entries.keys)
    (nonempty : ∀ id e, p.entries.get id = some e → ∀ s ∈ e.params.stopSeqs, s ≠ [])
    (stamped : ∀ id e, p.entries.get id = some e → e.batchTime.isSome)
    (ends : dec.EndsWithPieces) :
    ∃ q completed, p.processNextTokens dec clock outputs errors = some (q, completed) ∧
      (∀ id ∈ p.entries.keys, id ∉ q.entries.keys →
        id ∈ outputs.map Token.requestId ++ errors.map GenerateError.requestId) ∧
      (∀ id ∉ outputs.map Token.requestId ++ errors.map GenerateError.requestId,
        q.slot id = p.slot id) ∧
      (∀ output ∈ outputs, ∀ e e', p.entries.get output.requestId = some e →
        q.entries.get output.requestId = some e' → e'.generatedTokens = e.generatedTokens + 1) ∧
      ∀ ids, completed = some ids →
        ids.Nodup ∧ ∀ id, id ∈ ids ↔ id ∈ p.entries.keys ∧ id ∉ q.entries.keys := by
  obtain ⟨outputsDistinct, -, apart⟩ := List.nodup_append.mp distinct
  obtain ⟨⟨q, completed⟩, done⟩ := Option.isSome_iff_exists.mp
    (processNextTokens_isSome_of_known dec clock p distinct known nonempty stamped ends)
  have slots := processNextTokens_slot done
  -- an unnamed slot is left alone
  have unnamed : ∀ id ∉ outputs.map Token.requestId ++ errors.map GenerateError.requestId,
      q.slot id = p.slot id := fun id absent => by
    rw [List.mem_append, not_or] at absent
    have := slots id
    rw [Slot.afterTokens_unnamed absent.1 absent.2] at this
    exact (Option.some.inj this).symm
  have removedNamed : ∀ id ∈ p.entries.keys, id ∉ q.entries.keys →
      id ∈ outputs.map Token.requestId ++ errors.map GenerateError.requestId := by
    intro id before after
    by_contra absent
    rw [q.entries.mem_keys, ← slot_entry, unnamed id absent, slot_entry,
      ← p.entries.mem_keys] at after
    exact after before
  refine ⟨q, completed, done, removedNamed, unnamed, ?_, ?_⟩
  · intro output member e e' present stays
    have step := slots output.requestId
    rw [Slot.afterTokens_output outputsDistinct member
      (fun inErrors => apart (List.mem_map_of_mem _ member) inErrors)] at step
    obtain ⟨sent, kept⟩ := Slot.onToken_stays step present stays
    exact Entry.onToken_keep_generatedTokens kept
  · intro ids reported
    rw [processNextTokens_completed distinct done] at reported
    split at reported
    · cases reported
    · cases reported
      refine ⟨distinct.filter _, fun id => ?_⟩
      rw [List.mem_filter, Option.isNone_iff_eq_none, q.entries.get_eq_none_iff]
      constructor
      · rintro ⟨named, after⟩
        exact ⟨known id named, after⟩
      · rintro ⟨before, after⟩
        exact ⟨removedNamed id before after, after⟩

/-! ### A processor of three requests -/

/-- A unary request of up to 16 tokens with no stop sequence, admitted at time 0. -/
def plainEntry : Entry Text :=
  { request := ⟨[], ⟨0, 16, false, [], none, none, false, false⟩⟩, inputLength := 0,
    queueTime := 0, batchTime := some 0, generatedTokens := 0, tokenIds := [], tokens := [],
    inputTokens := [], output := none, channel := .unary }

/-- Requests 1, 2 and 3 in flight, none of them answered yet. -/
def threeRequests : TokenProcessor Text :=
  { entries := ((InFlight.empty.insert 1 plainEntry).insert 2 plainEntry).insert 3 plainEntry,
    generationHealth := true, sent := fun _ => [], closed := fun _ => false }

theorem byteDecoder_endsWithPieces : byteDecoder.EndsWithPieces := by
  intro d t d' piece next
  simp only [byteDecoder, Prod.mk.injEq, Except.ok.injEq] at next
  obtain ⟨rfl, rfl⟩ := next
  exact List.suffix_append _ _

theorem threeRequests_plain {id : Nat} {e : Entry Text}
    (present : threeRequests.entries.get id = some e) : e = plainEntry := by
  simp only [threeRequests, InFlight.get_insert, InFlight.get_empty] at present
  split_ifs at present <;> cases present <;> rfl

/-- Request 1 ends on the end-of-sequence token, request 2 goes on, request 3 fails: the call
keeps its books. -/
theorem processNextTokens_bookkeeping_three :
    ∃ q completed, threeRequests.processNextTokens byteDecoder (fun _ => 0) [⟨1, 0⟩, ⟨2, 7⟩]
        [⟨3, "bad"⟩] = some (q, completed) ∧
      (∀ id ∈ threeRequests.entries.keys, id ∉ q.entries.keys → id ∈ [1, 2, 3]) ∧
      (∀ id ∉ [1, 2, 3], q.slot id = threeRequests.slot id) ∧
      (∀ output ∈ [(⟨1, 0⟩ : Token), ⟨2, 7⟩], ∀ e e',
        threeRequests.entries.get output.requestId = some e →
        q.entries.get output.requestId = some e' → e'.generatedTokens = e.generatedTokens + 1) ∧
      ∀ ids, completed = some ids →
        ids.Nodup ∧ ∀ id, id ∈ ids ↔ id ∈ threeRequests.entries.keys ∧ id ∉ q.entries.keys :=
  processNextTokens_bookkeeping byteDecoder (fun _ => 0) threeRequests _ _ (by decide) (by decide)
    (fun _ _ present => by rw [threeRequests_plain present]; simp [plainEntry])
    (fun _ _ present => by rw [threeRequests_plain present]; rfl) byteDecoder_endsWithPieces

/-- Request 1 in flight with no batch time. -/
def unstampedRequest : TokenProcessor Text :=
  { entries := InFlight.empty.insert 1 { plainEntry with batchTime := none },
    generationHealth := true, sent := fun _ => [], closed := fun _ => false }

/-- Without a batch time the call panics: request 1 ends on the end-of-sequence token, and its
terminal response unwraps the missing batch time in `Times::from`. -/
theorem processNextTokens_unstamped_panics :
    unstampedRequest.processNextTokens byteDecoder (fun _ => 0) [⟨1, 0⟩] [] = none :=
  Option.isNone_iff_eq_none.mp (by decide)

/-- With the same three requests the call reports `None`, "every request completed", while
request 2 is still in flight: the two completed ids, one of them from the errors list, are as
many as the outputs. -/
theorem processNextTokens_none_while_in_flight :
    (threeRequests.processNextTokens byteDecoder (fun _ => 0) [⟨1, 0⟩, ⟨2, 7⟩] [⟨3, "bad"⟩]).map
      (fun result => (result.2, (result.1.entries.get 2).isSome)) = some (none, true) := by
  decide

end TokenProcessor

end Batching
