/-
**One request at a time.**

Every step of the token processor reads and writes what it holds for one request id alone: the
entry under that id, the messages on its channel, and whether its receiver is gone (a `Slot`).
This module says so once, and derives what a whole loop of such steps does.

* `processInput_eq`, `processOutput_eq`, `processError_eq`: each loop body is a step on the slot
  of its request id (`Slot.onInput`, `Slot.onToken`, `Slot.onError`), written back with
  `setSlot`;
* `Local`, with `Local.foldlM_filter` (after a loop every slot went through the steps of the
  loop's elements with its id, in order), `Local.foldlM_exact` (with distinct ids, through exactly
  its own step, or none) and `Local.foldlM_isSome` (with distinct ids, the loop does not panic
  when no step does);
* `slot_sendErrors`: `send_errors` on each slot.
-/

import Batching.Processor
import Mathlib.Logic.Relation

namespace Batching

variable {σ : Type}

/-- What the processor holds for one request id. -/
structure Slot (σ : Type) where
  entry : Option (Entry σ)
  sent : List Reply
  closed : Bool

namespace Slot

/-- The slot after an outcome of its entry's step. -/
def after (s : Slot σ) : TokenOutcome σ → Slot σ
  | .keep e sent => ⟨some e, s.sent ++ sent, s.closed⟩
  | .remove sent => ⟨none, s.sent ++ sent, s.closed⟩

/-- `processOutput` on the slot of the token's request. -/
def onToken (dec : Decoder σ) (now : Nat) (output : Token) (s : Slot σ) : Option (Slot σ) := do
  let e ← s.entry
  s.after <$> e.onToken dec now s.closed output

/-- `processError` on the slot of the error's request. -/
def onError (message : String) (s : Slot σ) : Option (Slot σ) := do
  let e ← s.entry
  pure ⟨none, s.sent ++ [.error (.generation (errorMessage e.generatedTokens message))], s.closed⟩

/-- `processInput` on the slot of the input's request. -/
def onInput (tokens : List Token) (s : Slot σ) : Option (Slot σ) := do
  let e ← s.entry
  if e.generatedTokens ≠ 0 then none
  else
    match e.channel with
    | .stream => pure { s with sent := s.sent ++ [.ok (InferResponse.streamInputInfo tokens)] }
    | .unary => pure { s with entry := some { e with inputTokens := tokens } }

/-- `send_errors` on one slot: unless kept, an entry is sent the error and removed. -/
def onFailure (error : ClientError) (keep : Bool) (s : Slot σ) : Slot σ :=
  if s.entry.isSome ∧ keep = false then ⟨none, s.sent ++ [.error error], s.closed⟩ else s

variable {dec : Decoder σ} {s s' : Slot σ}

/-- What the slot step of a token can do: what its entry's step does. -/
theorem onToken_eq_some {now : Nat} {output : Token} (done : s.onToken dec now output = some s') :
    ∃ e outcome, s.entry = some e ∧ e.onToken dec now s.closed output = some outcome ∧
      s' = s.after outcome := by
  obtain ⟨e, present, rest⟩ := Option.bind_eq_some.mp done
  obtain ⟨outcome, stepped, rfl⟩ := Option.map_eq_some'.mp rest
  exact ⟨e, outcome, present, stepped, rfl⟩

/-- What the slot step of a per-request error can do: remove the entry after the error. -/
theorem onError_eq_some {message : String} (done : s.onError message = some s') :
    ∃ e, s.entry = some e ∧
      s' = ⟨none, s.sent ++ [.error (.generation (errorMessage e.generatedTokens message))],
        s.closed⟩ := by
  obtain ⟨e, present, rest⟩ := Option.bind_eq_some.mp done
  exact ⟨e, present, (Option.some.inj rest).symm⟩

/-- What the slot step of input tokens can do: before any token, send them to a stream or keep
them in a unary entry. -/
theorem onInput_eq_some {tokens : List Token} (done : s.onInput tokens = some s') :
    ∃ e, s.entry = some e ∧ e.generatedTokens = 0 ∧
      (e.channel = .stream ∧ s' = { s with sent := s.sent ++ [.ok (.streamInputInfo tokens)] } ∨
        e.channel = .unary ∧ s' = { s with entry := some { e with inputTokens := tokens } }) := by
  obtain ⟨e, present, rest⟩ := Option.bind_eq_some.mp done
  refine ⟨e, present, ?_⟩
  by_cases counted : e.generatedTokens = 0
  · simp only [counted, ne_eq, not_true_eq_false, if_false] at rest
    cases channel : e.channel <;> simp only [channel, Option.pure_def, Option.some.injEq] at rest <;>
      simp [counted, ← rest]
  · simp [counted] at rest

end Slot

namespace TokenProcessor

variable (p : TokenProcessor σ)

/-- The slot of request `id`. -/
def slot (id : Nat) : Slot σ := ⟨p.entries.get id, p.sent id, p.closed id⟩

/-- Write the slot of request `id`. -/
def setSlot (id : Nat) (s : Slot σ) : TokenProcessor σ :=
  { p with
    entries := match s.entry with
      | some e => p.entries.insert id e
      | none => p.entries.remove id
    sent := fun k => if k = id then s.sent else p.sent k
    closed := fun k => if k = id then s.closed else p.closed k }

@[simp] theorem slot_entry (id : Nat) : (p.slot id).entry = p.entries.get id := rfl

@[simp] theorem slot_sent (id : Nat) : (p.slot id).sent = p.sent id := rfl

@[simp] theorem slot_closed (id : Nat) : (p.slot id).closed = p.closed id := rfl

@[simp] theorem slot_setSlot (id k : Nat) (s : Slot σ) :
    (p.setSlot id s).slot k = if k = id then s else p.slot k := by
  cases s with
  | mk entry sent closed =>
    by_cases same : k = id <;> cases entry <;> simp [slot, setSlot, same]

@[simp] theorem setSlot_generationHealth (id : Nat) (s : Slot σ) :
    (p.setSlot id s).generationHealth = p.generationHealth := rfl

/-- Writing back an entry with more messages on its channel. -/
theorem setSlot_some (id : Nat) (e : Entry σ) (messages : List Reply) :
    p.setSlot id ⟨some e, p.sent id ++ messages, p.closed id⟩ =
      { p.send id messages with entries := p.entries.insert id e } := by
  simp only [setSlot, send, mk.injEq, true_and]
  constructor <;> funext k <;> by_cases same : k = id <;> simp [same]

/-- Removing an entry after more messages on its channel. -/
theorem setSlot_none (id : Nat) (messages : List Reply) :
    p.setSlot id ⟨none, p.sent id ++ messages, p.closed id⟩ =
      { p.send id messages with entries := p.entries.remove id } := by
  simp only [setSlot, send, mk.injEq, true_and]
  constructor <;> funext k <;> by_cases same : k = id <;> simp [same]

theorem processOutput_eq (dec : Decoder σ) (clock : Nat → Nat) (completed : List Nat)
    (output : Token) :
    processOutput dec clock (p, completed) output =
      (Slot.onToken dec (clock output.requestId) output (p.slot output.requestId)).map
        fun s => (p.setSlot output.requestId s,
          completed ++ if s.entry.isNone then [output.requestId] else []) := by
  simp only [processOutput, Slot.onToken, slot]
  cases p.entries.get output.requestId with
  | none => rfl
  | some e =>
    simp only [Option.bind_eq_bind, Option.some_bind]
    cases e.onToken dec (clock output.requestId) (p.closed output.requestId) output with
    | none => rfl
    | some outcome =>
      cases outcome <;> simp [Slot.after, setSlot_some, setSlot_none]

theorem processError_eq (completed : List Nat) (error : GenerateError) :
    processError (p, completed) error =
      (Slot.onError error.message (p.slot error.requestId)).map
        fun s => (p.setSlot error.requestId s, completed ++ [error.requestId]) := by
  simp only [processError, Slot.onError, slot]
  cases p.entries.get error.requestId <;> simp [setSlot_none]

/-- Writing back a changed entry, with nothing sent. -/
theorem setSlot_entry (id : Nat) (e : Entry σ) :
    p.setSlot id ⟨some e, p.sent id, p.closed id⟩ = { p with entries := p.entries.insert id e } := by
  simp only [setSlot, mk.injEq, true_and]
  constructor <;> funext k <;> by_cases same : k = id <;> simp [same]

/-- Writing back the entry already there, with more messages on its channel. -/
theorem setSlot_send {id : Nat} {e : Entry σ} (present : p.entries.get id = some e)
    (messages : List Reply) :
    p.setSlot id ⟨some e, p.sent id ++ messages, p.closed id⟩ = p.send id messages := by
  rw [setSlot_some]
  have same : p.entries.insert id e = p.entries :=
    InFlight.ext (InFlight.keys_insert_of_mem _ _ (p.entries.mem_keys_of_get present))
      fun k => by by_cases h : k = id <;> simp [h, present]
  rw [same]
  rfl

theorem processInput_eq (input : InputTokens) :
    p.processInput input =
      (Slot.onInput input.tokens (p.slot input.requestId)).map (p.setSlot input.requestId) := by
  simp only [processInput, Slot.onInput, slot]
  cases present : p.entries.get input.requestId with
  | none => rfl
  | some e =>
    simp only [Option.bind_eq_bind, Option.some_bind]
    split
    · rfl
    · cases channel : e.channel
      · simp [setSlot_entry]
      · simp [setSlot_send p present]

/-- `send_errors` on each slot. -/
theorem slot_sendErrors (error : ClientError) (startId : Option Nat) (k : Nat) :
    (p.sendErrors error startId).slot k =
      Slot.onFailure error (keepOnError startId k) (p.slot k) := by
  unfold sendErrors slot Slot.onFailure
  by_cases keep : keepOnError startId k <;> cases present : p.entries.get k <;> simp [keep, present]

end TokenProcessor

/-! ### Loops of slot steps -/

section Loops

variable {S X : Type} (slot : S → Nat → Slot σ) (step : S → X → Option S) (key : X → Nat)
  (f : X → Slot σ → Option (Slot σ))

/-- `step` works on the slot of `key x` alone, as `f x` does, and panics only when `f x` does. -/
structure Local : Prop where
  here : ∀ s x s', step s x = some s' → f x (slot s (key x)) = some (slot s' (key x))
  frame : ∀ s x s', step s x = some s' → ∀ k ≠ key x, slot s' k = slot s k
  total : ∀ s x, (f x (slot s (key x))).isSome → (step s x).isSome

variable {slot step key f}

/-- With no key `k`, no element has key `k`. -/
theorem filter_key_eq_nil {key : X → Nat} {xs : List X} {k : Nat} (absent : k ∉ xs.map key) :
    xs.filter (key · == k) = [] :=
  List.filter_eq_nil_iff.mpr fun _ member same =>
    absent ((beq_iff_eq.mp same) ▸ List.mem_map_of_mem key member)

/-- **After a loop of local steps**, the slot of every id went through the steps of the
loop's elements with that id, in order, and through no other step. -/
theorem Local.foldlM_filter (loc : Local slot step key f) :
    ∀ {xs : List X} {s s' : S}, xs.foldlM step s = some s' → ∀ k,
      (xs.filter (key · == k)).foldlM (fun t x => f x t) (slot s k) = some (slot s' k)
  | [], s, s', done, k => by
    obtain rfl : s = s' := Option.some.inj done
    rfl
  | x :: xs, s, s', done, k => by
    obtain ⟨s₁, first, rest⟩ := Option.bind_eq_some.mp done
    have later := loc.foldlM_filter rest k
    by_cases same : key x = k
    · subst same
      simpa [List.filter_cons, loc.here s x s₁ first] using later
    · rw [loc.frame s x s₁ first k (Ne.symm same)] at later
      simpa [List.filter_cons, same] using later

/-- With distinct keys, the elements with the key of `x` are `x` alone. -/
theorem filter_key_eq_singleton {key : X → Nat} {x : X} :
    ∀ {xs : List X}, (xs.map key).Nodup → x ∈ xs → xs.filter (key · == key x) = [x]
  | y :: ys, distinct, member => by
    rw [List.map_cons, List.nodup_cons] at distinct
    rcases List.mem_cons.mp member with rfl | member
    · simp [List.filter_cons, filter_key_eq_nil distinct.1]
    · have other : key y ≠ key x := fun same =>
        distinct.1 (same ▸ List.mem_map_of_mem key member)
      simp [List.filter_cons, other, filter_key_eq_singleton distinct.2 member]

/-- **After a loop of local steps over distinct ids**, the slot of an id the loop does not name is
unchanged, and the slot of an id it names went through exactly that id's step. -/
theorem Local.foldlM_exact (loc : Local slot step key f) {xs : List X} {s s' : S}
    (distinct : (xs.map key).Nodup) (done : xs.foldlM step s = some s') (k : Nat) :
    (k ∉ xs.map key → slot s' k = slot s k) ∧
      ∀ x ∈ xs, key x = k → f x (slot s k) = some (slot s' k) := by
  have trace := loc.foldlM_filter done k
  refine ⟨fun absent => ?_, fun x member keyed => ?_⟩
  · rw [filter_key_eq_nil absent] at trace
    exact (Option.some.inj trace).symm
  · subst keyed
    rw [filter_key_eq_singleton distinct member] at trace
    simpa using trace

/-- A loop of local steps over distinct ids does not panic when no step panics on the slot it
starts from. -/
theorem Local.foldlM_isSome (loc : Local slot step key f) :
    ∀ {xs : List X} {s : S}, (xs.map key).Nodup →
      (∀ x ∈ xs, (f x (slot s (key x))).isSome) → (xs.foldlM step s).isSome
  | [], _, _, _ => rfl
  | x :: xs, s, distinct, total => by
    rw [List.map_cons, List.nodup_cons] at distinct
    obtain ⟨s₁, first⟩ := Option.isSome_iff_exists.mp
      (loc.total s x (total x (List.mem_cons_self x xs)))
    rw [List.foldlM_cons, first]
    refine loc.foldlM_isSome distinct.2 fun y member => ?_
    have other : key y ≠ key x := fun equal =>
      distinct.1 (equal ▸ List.mem_map_of_mem key member)
    rw [loc.frame s x s₁ first _ other]
    exact total y (List.mem_cons_of_mem x member)

end Loops

/-! ### The processor's loops -/

section Collects

variable {X : Type} {step : TokenProcessor σ × List Nat → X → Option (TokenProcessor σ × List Nat)}
  {key : X → Nat} {f : X → Slot σ → Option (Slot σ)}

/-- `step` is the slot step `f` on the slot of `key x`, and collects `key x` when it empties
that slot. -/
def Collects (step : TokenProcessor σ × List Nat → X → Option (TokenProcessor σ × List Nat))
    (key : X → Nat) (f : X → Slot σ → Option (Slot σ)) : Prop :=
  ∀ p c x, step (p, c) x = (f x (p.slot (key x))).map fun s =>
    (p.setSlot (key x) s, c ++ if s.entry.isNone then [key x] else [])

theorem Collects.local (collects : Collects step key f) :
    Local (fun q : TokenProcessor σ × List Nat => q.1.slot) step key f where
  here := by
    rintro ⟨p, c⟩ x q done
    rw [collects] at done
    obtain ⟨s, found, rfl⟩ := Option.map_eq_some'.mp done
    simpa using found
  frame := by
    rintro ⟨p, c⟩ x q done k other
    rw [collects] at done
    obtain ⟨s, -, rfl⟩ := Option.map_eq_some'.mp done
    simp [other]
  total := by
    rintro ⟨p, c⟩ x total
    rw [collects]
    simpa using total

/-- **A collecting loop over distinct ids collects, in order, exactly the ids whose entry it
removed.** -/
theorem Collects.foldlM_completed (collects : Collects step key f) :
    ∀ {xs : List X} {p q : TokenProcessor σ} {c c' : List Nat}, (xs.map key).Nodup →
      xs.foldlM step (p, c) = some (q, c') →
        c' = c ++ (xs.map key).filter fun k => (q.entries.get k).isNone
  | [], p, q, c, c', _, done => by
    cases done
    simp
  | x :: xs, p, q, c, c', distinct, done => by
    obtain ⟨⟨p₁, c₁⟩, first, rest⟩ := Option.bind_eq_some.mp done
    have distinct' := List.nodup_cons.mp (List.map_cons key x xs ▸ distinct)
    have kept := (collects.local.foldlM_exact distinct'.2 rest (key x)).1 distinct'.1
    rw [collects] at first
    obtain ⟨s, -, equal⟩ := Option.map_eq_some'.mp first
    cases equal
    rw [collects.foldlM_completed distinct'.2 rest]
    have last : (q.entries.get (key x)).isNone = s.entry.isNone := by
      rw [show q.entries.get (key x) = s.entry by simpa using congrArg Slot.entry kept]
    simp only [List.map_cons, List.filter_cons, last, List.append_assoc]
    split <;> simp

end Collects

/-- A per-request error always removes its entry. -/
theorem Slot.onError_entry {message : String} {s s' : Slot σ} (done : Slot.onError message s = some s') :
    s'.entry = none := by
  unfold Slot.onError at done
  cases present : s.entry with
  | none => simp [present] at done
  | some e =>
    simp only [present, Option.bind_eq_bind, Option.some_bind, Option.pure_def,
      Option.some.injEq] at done
    rw [← done]

namespace TokenProcessor

theorem collects_processOutput (dec : Decoder σ) (clock : Nat → Nat) :
    Collects (processOutput dec clock) Token.requestId
      (fun output => Slot.onToken dec (clock output.requestId) output) :=
  fun p c output => p.processOutput_eq dec clock c output

theorem collects_processError :
    Collects (σ := σ) processError GenerateError.requestId
      (fun error => Slot.onError error.message) := by
  intro p c error
  rw [processError_eq]
  dsimp only
  cases done : Slot.onError error.message (p.slot error.requestId) with
  | none => rfl
  | some s => simp [Slot.onError_entry done]

theorem local_processInput :
    Local (σ := σ) slot processInput InputTokens.requestId (fun input => Slot.onInput input.tokens) where
  here p input q done := by
    rw [processInput_eq] at done
    obtain ⟨s, found, rfl⟩ := Option.map_eq_some'.mp done
    simpa using found
  frame p input q done k other := by
    rw [processInput_eq] at done
    obtain ⟨s, -, rfl⟩ := Option.map_eq_some'.mp done
    simp [other]
  total p input total := by
    rw [processInput_eq]
    simpa using total

end TokenProcessor

/-! ### A whole backend result, on one slot -/

namespace Slot

/-- What the input-tokens loop does to the slot of `id`. -/
def afterInputs (inputs : List InputTokens) (id : Nat) (s : Slot σ) : Option (Slot σ) :=
  (inputs.filter (·.requestId == id)).foldlM (fun s input => s.onInput input.tokens) s

/-- What both loops of `process_next_tokens` do to the slot of `id`. -/
def afterTokens (dec : Decoder σ) (clock : Nat → Nat) (outputs : List Token)
    (errors : List GenerateError) (id : Nat) (s : Slot σ) : Option (Slot σ) := do
  let s ← (outputs.filter (·.requestId == id)).foldlM
    (fun s output => s.onToken dec (clock output.requestId) output) s
  (errors.filter (·.requestId == id)).foldlM (fun s error => s.onError error.message) s

end Slot

namespace TokenProcessor

variable {p q : TokenProcessor σ}

theorem processInputTokens_slot {inputs : List InputTokens}
    (done : p.processInputTokens inputs = some q) (id : Nat) :
    Slot.afterInputs inputs id (p.slot id) = some (q.slot id) :=
  local_processInput.foldlM_filter done id

/-- **`process_next_tokens` on one slot.** -/
theorem processNextTokens_slot {dec : Decoder σ} {clock : Nat → Nat} {outputs : List Token}
    {errors : List GenerateError} {completed : Option (List Nat)}
    (done : p.processNextTokens dec clock outputs errors = some (q, completed)) (id : Nat) :
    Slot.afterTokens dec clock outputs errors id (p.slot id) = some (q.slot id) := by
  obtain ⟨⟨p₁, c₁⟩, first, rest⟩ := Option.bind_eq_some.mp done
  obtain ⟨⟨q', c₂⟩, second, answer⟩ := Option.bind_eq_some.mp rest
  cases answer
  have tokens := (collects_processOutput dec clock).local.foldlM_filter first id
  have errs := collects_processError.local.foldlM_filter second id
  simp only at tokens errs
  simp only [Slot.afterTokens, tokens, Option.bind_eq_bind, Option.some_bind]
  exact errs

/-- **The ids `process_next_tokens` reports**, when no id is in both lists: those of the outputs,
then of the errors, whose entry it removed; `None` when there are as many as outputs. -/
theorem processNextTokens_completed {dec : Decoder σ} {clock : Nat → Nat} {outputs : List Token}
    {errors : List GenerateError} {completed : Option (List Nat)}
    (distinct : (outputs.map Token.requestId ++ errors.map GenerateError.requestId).Nodup)
    (done : p.processNextTokens dec clock outputs errors = some (q, completed)) :
    completed =
      if ((outputs.map Token.requestId ++ errors.map GenerateError.requestId).filter
          fun k => (q.entries.get k).isNone).length = outputs.length then none
      else some ((outputs.map Token.requestId ++ errors.map GenerateError.requestId).filter
          fun k => (q.entries.get k).isNone) := by
  obtain ⟨⟨p₁, c₁⟩, first, rest⟩ := Option.bind_eq_some.mp done
  obtain ⟨⟨q', c₂⟩, second, answer⟩ := Option.bind_eq_some.mp rest
  cases answer
  obtain ⟨outputsDistinct, errorsDistinct, apart⟩ := List.nodup_append.mp distinct
  have outputsPart := (collects_processOutput dec clock).foldlM_completed outputsDistinct first
  have errorsPart := collects_processError.foldlM_completed errorsDistinct second
  have same : ((outputs.map Token.requestId).filter fun k => (p₁.entries.get k).isNone) =
      (outputs.map Token.requestId).filter fun k => (q.entries.get k).isNone := by
    refine List.filter_congr fun k member => ?_
    have kept := (collects_processError.local.foldlM_exact errorsDistinct second k).1
      fun inErrors => apart member inErrors
    rw [show q.entries.get k = p₁.entries.get k by simpa using congrArg Slot.entry kept]
  rw [errorsPart, outputsPart, same, List.nil_append, List.filter_append]

end TokenProcessor

namespace Slot

variable {dec : Decoder σ} {clock : Nat → Nat} {outputs : List Token} {errors : List GenerateError}

theorem afterTokens_unnamed {id : Nat} (noOutput : id ∉ outputs.map Token.requestId)
    (noError : id ∉ errors.map GenerateError.requestId) (s : Slot σ) :
    afterTokens dec clock outputs errors id s = some s := by
  simp [afterTokens, filter_key_eq_nil noOutput, filter_key_eq_nil noError]

theorem afterTokens_output {output : Token} (distinct : (outputs.map Token.requestId).Nodup)
    (member : output ∈ outputs) (noError : output.requestId ∉ errors.map GenerateError.requestId)
    (s : Slot σ) :
    afterTokens dec clock outputs errors output.requestId s =
      s.onToken dec (clock output.requestId) output := by
  simp [afterTokens, filter_key_eq_singleton distinct member, filter_key_eq_nil noError]

/-- The slot step for a token panics only where the entry's step does. -/
theorem onToken_isSome {now : Nat} {output : Token} {s : Slot σ} {e : Entry σ}
    (present : s.entry = some e) (total : (e.onToken dec now s.closed output).isSome) :
    (s.onToken dec now output).isSome := by
  obtain ⟨outcome, step⟩ := Option.isSome_iff_exists.mp total
  cases outcome <;> simp [onToken, present, step]

/-- A slot whose entry stays went through a kept outcome of the entry's step. -/
theorem onToken_stays {now : Nat} {output : Token} {s s' : Slot σ} {e e' : Entry σ}
    (done : s.onToken dec now output = some s') (present : s.entry = some e)
    (stays : s'.entry = some e') : ∃ sent, e.onToken dec now s.closed output = some (.keep e' sent) := by
  obtain ⟨e₁, outcome, found, stepped, rfl⟩ := onToken_eq_some done
  cases present.symm.trans found
  cases outcome with
  | keep e₂ sent => cases stays; exact ⟨sent, stepped⟩
  | remove sent => cases stays

theorem onError_isSome {message : String} {s : Slot σ} (present : s.entry.isSome) :
    (s.onError message).isSome := by
  obtain ⟨e, present⟩ := Option.isSome_iff_exists.mp present
  simp [onError, present]

end Slot

end Batching
