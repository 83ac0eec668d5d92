/-
**Runs of the token processor.**

Between two looks at the token processor one of three things happens: the queue admits a request
to the in-flight map, a client drops the receiving end of its channel, or `wrap_future` handles
what a backend call returned. A `Run` is a sequence of such events from the processor
`batching_task` starts with.

The queue's code is not in the batcher's source. Modelled from the spec, it admits a request
under an id it never admitted before, as `Entry::new` built it (`Entry.Fresh`); a stream was sent
its first message by `infer_stream` before it was queued, and nothing else is sent to it before
its admission.

* `wrapFuture_slot`: `wrap_future` on one slot (`Slot.onCall`): the steps of the result's
  elements that name the slot's id, in order;
* `Run.unadmitted`: a request the run has not admitted has no entry, nothing on its channel and no
  token returned for it;
* **`Run.admittedSlots`**: a property of a request's slot that its admission establishes and that
  every close and every call keeps, given the tokens returned for it, holds after every run.
-/

import Batching.Slots

namespace Batching

variable {σ : Type}

/-! ### Events -/

/-- What can happen between two looks at the token processor. -/
inductive Event (σ : Type)
  /-- The queue puts request `id` in the in-flight map. -/
  | enter (id : Nat) (e : Entry σ)
  /-- The client drops the receiving end of request `id`'s channel. -/
  | close (id : Nat)
  /-- `wrap_future` on what a backend call returned; at the token of request `id`,
  `Instant::now()` reads `clock id`. -/
  | call (clock : Nat → Nat) (result : TokenProcessor.CallResult) (startId : Option Nat)

namespace Event

/-- The entry the event admits under `id`. -/
def admits (id : Nat) : Event σ → Option (Entry σ)
  | .enter k e => if k = id then some e else none
  | _ => none

/-- The tokens the event returns for request `id`, in order. -/
def returned (id : Nat) : Event σ → List Token
  | .call _ (.ok (some (generated, _, _, _))) _ => generated.filter (·.requestId == id)
  | _ => []

end Event

/-- The entry a run admitted under `id`. -/
def admitted (history : List (Event σ)) (id : Nat) : Option (Entry σ) :=
  history.findSome? (Event.admits id)

/-- The tokens the backend returned for request `id` in a run, in order. -/
def returned (history : List (Event σ)) (id : Nat) : List Token :=
  history.flatMap (Event.returned id)

@[simp] theorem admitted_nil (id : Nat) : admitted ([] : List (Event σ)) id = none := rfl

theorem admitted_append (history : List (Event σ)) (ev : Event σ) (id : Nat) :
    admitted (history ++ [ev]) id = (admitted history id).or (ev.admits id) := by
  simp only [admitted, List.findSome?_append, List.findSome?_cons, List.findSome?_nil]
  cases ev.admits id <;> rfl

@[simp] theorem returned_nil (id : Nat) : returned ([] : List (Event σ)) id = [] := rfl

theorem returned_append (history : List (Event σ)) (ev : Event σ) (id : Nat) :
    returned (history ++ [ev]) id = returned history id ++ ev.returned id := by
  simp [returned, List.flatMap_append]

/-! ### The processor's side of each event -/

/-- What a request's channel holds when the queue admits it: the first message of a stream, sent
by `infer_stream` before it queued the entry. -/
def Entry.firstMessages (e : Entry σ) : List Reply :=
  match e.channel with
  | .stream => [.ok (InferResponse.streamStart e.inputLength e.request)]
  | .unary => []

/-- The first message carries no stop reason. -/
theorem Entry.firstMessages_quiet (e : Entry σ) :
    ∀ r, .ok r ∈ e.firstMessages → r.reason = .notFinished := by
  unfold Entry.firstMessages
  split <;> simp [InferResponse.streamStart]

namespace TokenProcessor

variable (p : TokenProcessor σ)

/-- The processor `batching_task` starts with: nothing in flight, no channel written to. -/
def initial (health : Bool) : TokenProcessor σ :=
  ⟨InFlight.empty, health, fun _ => [], fun _ => false⟩

/-- Request `id` enters the in-flight map. -/
def enter (id : Nat) (e : Entry σ) : TokenProcessor σ :=
  { p.send id e.firstMessages with entries := p.entries.insert id e }

/-- The receiver of request `id` is gone. -/
def close (id : Nat) : TokenProcessor σ :=
  { p with closed := fun k => if k = id then true else p.closed k }

/-- One event. -/
def apply (dec : Decoder σ) : Event σ → Option (TokenProcessor σ)
  | .enter id e => some (p.enter id e)
  | .close id => some (p.close id)
  | .call clock result startId => (p.wrapFuture dec clock result startId).map Prod.fst

theorem slot_enter (id k : Nat) (e : Entry σ) :
    (p.enter id e).slot k =
      if k = id then ⟨some e, p.sent id ++ e.firstMessages, p.closed id⟩ else p.slot k := by
  by_cases same : k = id <;> simp [enter, slot, same]

theorem slot_close (id k : Nat) :
    (p.close id).slot k = if k = id then { p.slot k with closed := true } else p.slot k := by
  by_cases same : k = id <;> simp [close, slot, same]

end TokenProcessor

/-- What a backend call does to the slot of request `id`. -/
def Slot.onCall (dec : Decoder σ) (clock : Nat → Nat) (result : TokenProcessor.CallResult)
    (startId : Option Nat) (id : Nat) (s : Slot σ) : Option (Slot σ) :=
  match result with
  | .ok (some (generated, inputs, errors, _)) =>
    Slot.afterInputs inputs id s >>= Slot.afterTokens dec clock generated errors id
  | .ok none => some s
  | .error err => some (s.onFailure err (TokenProcessor.keepOnError startId id))

theorem TokenProcessor.wrapFuture_slot {p q : TokenProcessor σ} {dec : Decoder σ}
    {clock : Nat → Nat} {result : TokenProcessor.CallResult} {startId : Option Nat}
    {batch : Option CachedBatch} (done : p.wrapFuture dec clock result startId = some (q, batch))
    (id : Nat) : Slot.onCall dec clock result startId id (p.slot id) = some (q.slot id) := by
  rcases result with err | _ | ⟨generated, inputs, errors, nextBatchId⟩
  · cases done
    exact congrArg some (slot_sendErrors _ err startId id).symm
  · cases done
    rfl
  · obtain ⟨p₁, inputsDone, rest⟩ := Option.bind_eq_some.mp done
    obtain ⟨⟨p₂, completed⟩, tokensDone, answer⟩ := Option.bind_eq_some.mp rest
    cases answer
    simp only [Slot.onCall, processInputTokens_slot inputsDone id, Option.bind_eq_bind,
      Option.some_bind]
    exact processNextTokens_slot tokensDone id

/-! ### Properties every slot step keeps -/

/-- A property of a loop's state, indexed by the elements the loop went through, that each step
keeps holds after the loop. -/
theorem foldlM_induction {X S : Type} {P : List X → S → Prop} {f : S → X → Option S}
    (ys : List X) (step : ∀ xs, ∀ x ∈ ys, ∀ s s', P xs s → f s x = some s' → P (xs ++ [x]) s') :
    ∀ (xs : List X) {s s' : S}, P xs s → ys.foldlM f s = some s' → P (xs ++ ys) s' := by
  induction ys with
  | nil =>
    intro xs s s' holds done
    cases done
    simpa using holds
  | cons y ys ih =>
    intro xs s s' holds done
    obtain ⟨s₁, first, rest⟩ := Option.bind_eq_some.mp done
    have next := step xs y (List.mem_cons_self y ys) s s₁ holds first
    simpa using ih (fun xs x member => step xs x (List.mem_cons_of_mem y member)) _ next rest

/-- **What a call does to a slot, step by step**: a property of the slot, given the tokens
returned for it, holds after the call when its input steps and token steps keep it, and so do the
steps for the call's own per-request errors and for the call's own failure. -/
theorem Slot.onCall_induction {dec : Decoder σ} {id : Nat} {clock : Nat → Nat}
    {result : TokenProcessor.CallResult} {startId : Option Nat} {P : List Token → Slot σ → Prop}
    (input : ∀ returned tokens s s', P returned s → s.onInput tokens = some s' → P returned s')
    (token : ∀ returned now output s s', output.requestId = id → P returned s →
      s.onToken dec now output = some s' → P (returned ++ [output]) s')
    (error : ∀ generated inputs errors nextBatchId,
      result = .ok (some (generated, inputs, errors, nextBatchId)) →
      ∀ returned (error : GenerateError) s s', error ∈ errors → error.requestId = id →
        P returned s → s.onError error.message = some s' → P returned s')
    (failure : ∀ err returned s, result = .error err → P returned s →
      P returned (s.onFailure err (TokenProcessor.keepOnError startId id)))
    (returned : List Token) {s s' : Slot σ} (holds : P returned s)
    (done : onCall dec clock result startId id s = some s') :
    P (returned ++ (Event.call (σ := σ) clock result startId).returned id) s' := by
  rcases result with err | _ | ⟨generated, inputs, errors, nextBatchId⟩
  · cases done
    simpa [Event.returned] using failure err returned s rfl holds
  · cases done
    simpa [Event.returned] using holds
  · obtain ⟨s₁, inputsDone, rest⟩ := Option.bind_eq_some.mp done
    obtain ⟨s₂, tokensDone, errorsDone⟩ := Option.bind_eq_some.mp rest
    have afterInputs : P returned s₁ := by
      simpa using foldlM_induction (P := fun _ => P returned) _
        (fun _ x _ s s' => input returned x.tokens s s') [] holds inputsDone
    have afterTokens := foldlM_induction (P := P) _
      (fun xs output member s s' => token xs _ output s s' (by simpa using List.of_mem_filter member))
      _ afterInputs tokensDone
    simpa using foldlM_induction (P := fun _ => P (returned ++ generated.filter (·.requestId == id))) _
      (fun _ x member s s' => error generated inputs errors nextBatchId rfl _ x s s'
        (List.mem_of_mem_filter member) (by simpa using List.of_mem_filter member))
      [] afterTokens errorsDone

/-- **A property of a slot, given the tokens returned for it, that every slot step keeps is
kept by every call**, with the tokens the call returns for the slot. -/
theorem Slot.onCall_preserves {dec : Decoder σ} {id : Nat} {P : List Token → Slot σ → Prop}
    (input : ∀ returned tokens s s', P returned s → s.onInput tokens = some s' → P returned s')
    (token : ∀ returned now output s s', output.requestId = id → P returned s →
      s.onToken dec now output = some s' → P (returned ++ [output]) s')
    (error : ∀ returned message s s', P returned s → s.onError message = some s' →
      P returned s')
    (failure : ∀ returned error keep s, P returned s → P returned (s.onFailure error keep))
    {clock : Nat → Nat} {result : TokenProcessor.CallResult} {startId : Option Nat}
    (returned : List Token) {s s' : Slot σ} (holds : P returned s)
    (done : onCall dec clock result startId id s = some s') :
    P (returned ++ (Event.call (σ := σ) clock result startId).returned id) s' :=
  Slot.onCall_induction input token
    (fun _ _ _ _ _ returned reported s s' _ _ => error returned reported.message s s')
    (fun err returned s _ => failure returned err _ s) returned holds done

/-! ### A slot with no entry -/

namespace Slot

variable {s s' : Slot σ}

theorem afterInputs_vacant {inputs : List InputTokens} {id : Nat} (vacant : s.entry = none)
    (done : afterInputs inputs id s = some s') : s' = s := by
  unfold afterInputs at done
  cases inputs_ : inputs.filter (·.requestId == id) with
  | nil => simpa [inputs_] using done.symm
  | cons input _ => simp [inputs_, onInput, vacant] at done

theorem afterTokens_vacant {dec : Decoder σ} {clock : Nat → Nat} {generated : List Token}
    {errors : List GenerateError} {id : Nat} (vacant : s.entry = none)
    (done : afterTokens dec clock generated errors id s = some s') :
    s' = s ∧ generated.filter (·.requestId == id) = [] := by
  unfold afterTokens at done
  cases tokens : generated.filter (·.requestId == id) with
  | cons output _ => simp [tokens, onToken, vacant] at done
  | nil =>
    cases errs : errors.filter (·.requestId == id) with
    | nil => simpa [tokens, errs] using done.symm
    | cons error _ => simp [tokens, errs, onError, vacant] at done

/-- A call leaves a slot with no entry as it is, and returns no token for it. -/
theorem onCall_vacant {dec : Decoder σ} {clock : Nat → Nat} {result : TokenProcessor.CallResult}
    {startId : Option Nat} {id : Nat} (vacant : s.entry = none)
    (done : onCall dec clock result startId id s = some s') :
    s' = s ∧ (Event.call (σ := σ) clock result startId).returned id = [] := by
  rcases result with err | _ | ⟨generated, inputs, errors, nextBatchId⟩
  · cases done
    simp [onFailure, vacant, Event.returned]
  · cases done
    exact ⟨rfl, rfl⟩
  · obtain ⟨s₁, inputsDone, tokensDone⟩ := Option.bind_eq_some.mp done
    obtain rfl := afterInputs_vacant vacant inputsDone
    exact afterTokens_vacant vacant tokensDone

end Slot

/-! ### Runs -/

/-- An admission the queue makes: of an id it never admitted, with an entry as `Entry::new` built
it. -/
def Event.Queued (history : List (Event σ)) : Event σ → Prop
  | .enter id e => admitted history id = none ∧ e.Fresh
  | _ => True

/-- The runs of the token processor whose events `allowed` admits, with the events so far. -/
inductive Run (dec : Decoder σ) (allowed : Event σ → Prop) :
    List (Event σ) → TokenProcessor σ → Prop
  | start (health : Bool) : Run dec allowed [] (TokenProcessor.initial health)
  | step {history : List (Event σ)} {p q : TokenProcessor σ} {ev : Event σ} :
      Run dec allowed history p → ev.Queued history → allowed ev → p.apply dec ev = some q →
      Run dec allowed (history ++ [ev]) q

variable {dec : Decoder σ} {allowed : Event σ → Prop}

/-- A list with `x` somewhere that ends in `ev`: either `ev` is that `x`, or `x` came before
it. -/
theorem split_snoc {α : Type} {history before after : List α} {ev x : α}
    (split : history ++ [ev] = before ++ x :: after) :
    (after = [] ∧ history = before ∧ ev = x) ∨
      ∃ after', after = after' ++ [ev] ∧ history = before ++ x :: after' := by
  rcases List.eq_nil_or_concat after with rfl | ⟨after', last, rfl⟩
  · obtain ⟨history_, ev_⟩ := List.append_inj' split rfl
    exact .inl ⟨rfl, history_, List.singleton_inj.mp ev_⟩
  · rw [List.concat_eq_append, ← List.cons_append, ← List.append_assoc] at split
    rw [List.concat_eq_append]
    obtain ⟨history_, ev_⟩ := List.append_inj' split rfl
    obtain rfl := List.singleton_inj.mp ev_
    exact .inr ⟨after', rfl, history_⟩

/-- **A request the run has not admitted** has no entry, nothing on its channel, and no token
was returned for it: a call that names it panics. -/
theorem Run.unadmitted {history : List (Event σ)} {p : TokenProcessor σ}
    (run : Run dec allowed history p) {id : Nat} (fresh : admitted history id = none) :
    p.entries.get id = none ∧ p.sent id = [] ∧ returned history id = [] := by
  induction run with
  | start => exact ⟨rfl, rfl, rfl⟩
  | @step history p q ev _ _ _ applied ih =>
    rw [admitted_append, Option.or_eq_none] at fresh
    obtain ⟨vacant, unsent, none⟩ := ih fresh.1
    rw [returned_append, none, List.nil_append]
    cases ev with
    | enter k e =>
      have other : id ≠ k := fun same => by simp [Event.admits, same] at fresh
      cases applied
      have same := p.slot_enter k id e
      rw [if_neg other] at same
      exact ⟨by simpa [vacant] using congrArg Slot.entry same,
        by simpa [unsent] using congrArg Slot.sent same, rfl⟩
    | close k =>
      cases applied
      exact ⟨vacant, unsent, rfl⟩
    | call clock result startId =>
      obtain ⟨⟨q', batch⟩, done, rfl⟩ := Option.map_eq_some'.mp applied
      obtain ⟨same, nothing⟩ := Slot.onCall_vacant vacant (TokenProcessor.wrapFuture_slot done id)
      exact ⟨by simpa [vacant] using congrArg Slot.entry same,
        by simpa [unsent] using congrArg Slot.sent same, nothing⟩

/-- **A property of each admitted request's slot**, given the entry it was admitted with and the
tokens returned for it, that admission establishes and every close and every allowed call keeps,
holds after every run. -/
theorem Run.admittedSlots {J : Entry σ → List Token → Slot σ → Prop} {id : Nat}
    (enter : ∀ e closed, e.Fresh → allowed (.enter id e) →
      J e [] ⟨some e, e.firstMessages, closed⟩)
    (close : ∀ e₀ returned s, J e₀ returned s → J e₀ returned { s with closed := true })
    (call : ∀ clock result startId e₀ returned s s', allowed (.call clock result startId) →
      J e₀ returned s → Slot.onCall dec clock result startId id s = some s' →
      J e₀ (returned ++ (Event.call (σ := σ) clock result startId).returned id) s')
    {history : List (Event σ)} {p : TokenProcessor σ} (run : Run dec allowed history p) :
    ∀ e₀, admitted history id = some e₀ → J e₀ (returned history id) (p.slot id) := by
  induction run with
  | start => intro e₀ found; cases found
  | @step history p q ev run queued permitted applied ih =>
    intro e₀ found
    rw [returned_append]
    rw [admitted_append] at found
    cases before : admitted history id with
    | none =>
      rw [before, Option.none_or] at found
      obtain ⟨vacant, unsent, none⟩ := run.unadmitted before
      cases ev with
      | enter k e =>
        by_cases same : k = id
        · subst same
          simp only [Event.admits, if_true, Option.some.injEq] at found
          subst found
          cases applied
          simpa [TokenProcessor.slot_enter, unsent, none, Event.returned] using
            enter e (p.closed k) queued.2 permitted
        · simp [Event.admits, same] at found
      | close k => cases found
      | call clock result startId => cases found
    | some e₁ =>
      rw [before] at found
      obtain rfl : e₁ = e₀ := Option.some.inj found
      have known := ih e₁ before
      cases ev with
      | enter k e =>
        have other : id ≠ k := by
          rintro rfl
          rw [queued.1] at before
          cases before
        cases applied
        simpa [TokenProcessor.slot_enter, other, Event.returned] using known
      | close k =>
        cases applied
        rw [TokenProcessor.slot_close]
        by_cases same : id = k
        · simpa [same, Event.returned] using close e₁ _ _ known
        · simpa [same, Event.returned] using known
      | call clock result startId =>
        obtain ⟨⟨q', batch⟩, done, rfl⟩ := Option.map_eq_some'.mp applied
        exact call clock result startId e₁ _ _ _ permitted known
          (TokenProcessor.wrapFuture_slot done id)

end Batching
