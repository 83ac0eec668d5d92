/-
**Stopping criteria, and the tail-window search for stop sequences.**

`TokenProcessor::check_stopping_criteria` decides, after each generated token, whether an entry
is done and why; its last test, `matches_stop_sequence`, looks for a stop sequence only in a
window at the end of the decoded text, of the stop sequence's length plus the bytes this token
added. Both are modelled with their panics (`none`).

* `any_windows_eq_true`: the window scan of line 551 finds `s` exactly when `s` is a substring;
* `stopSeqMatch_append`: on a decoded text `prev ++ t` whose last piece is `t`, the search does not
  panic and finds a stop sequence exactly when one occurs with its last byte in `t`;
* **`matchesStopSequence_tail_window`**: along any chunking of the decoded text, the search is
  first true at the first step at which some stop sequence is a substring of the whole text.
-/

import Batching.Types
import Mathlib.Data.List.Infix

namespace Batching

variable {σ : Type}

/-! ### Windows -/

/-- `slice.windows(n)`: every run of `n` consecutive elements, from the left. The source scans
them in reverse (`.rev()`), which `any` does not see. -/
def windows {α : Type} (n : Nat) : List α → List (List α)
  | [] => []
  | a :: l => if n ≤ l.length + 1 then (a :: l).take n :: windows n l else []

theorem mem_windows {α : Type} {n : Nat} (positive : 0 < n) {w : List α} :
    ∀ {l : List α}, w ∈ windows n l ↔ w.length = n ∧ w <:+: l
  | [] => by
    simp only [windows, List.not_mem_nil, false_iff, not_and]
    intro length found
    have := found.length_le
    simp only [List.length_nil] at this
    omega
  | a :: l => by
    unfold windows
    split
    · rw [List.mem_cons, mem_windows positive]
      constructor
      · rintro (rfl | ⟨length, found⟩)
        · exact ⟨by simp only [List.length_take, List.length_cons]; omega,
            (List.take_prefix n _).isInfix⟩
        · exact ⟨length, found.trans (List.suffix_cons a l).isInfix⟩
      · rintro ⟨length, found⟩
        rcases List.infix_cons_iff.mp found with atFront | inTail
        · exact .inl (length ▸ List.prefix_iff_eq_take.mp atFront)
        · exact .inr ⟨length, inTail⟩
    · simp only [List.not_mem_nil, false_iff, not_and]
      intro length found
      have := found.length_le
      simp only [List.length_cons] at this
      omega

/-- The window scan finds a non-empty `s` exactly when `s` is a substring. -/
theorem any_windows_eq_true {s l : Text} (nonempty : s ≠ []) :
    (windows s.length l).any (· == s) = true ↔ s <:+: l := by
  have positive : 0 < s.length := List.length_pos.mpr nonempty
  rw [List.any_eq_true]
  constructor
  · rintro ⟨w, member, equal⟩
    obtain rfl : w = s := by simpa using equal
    exact ((mem_windows positive).mp member).2
  · exact fun found => ⟨s, (mem_windows positive).mpr ⟨rfl, found⟩, by simp⟩

/-- A substring of `l.drop n` is an occurrence in `l` that starts at `n` or later. -/
theorem infix_drop_iff {s l : Text} {n : Nat} (le : n ≤ l.length) :
    s <:+: l.drop n ↔ ∃ pre post, l = pre ++ s ++ post ∧ n ≤ pre.length := by
  constructor
  · rintro ⟨u, v, equal⟩
    refine ⟨l.take n ++ u, v, ?_, by simp; omega⟩
    conv_lhs => rw [← List.take_append_drop n l, ← equal]
    simp
  · rintro ⟨pre, post, rfl, start⟩
    rw [List.append_assoc, List.drop_append_of_le_length start]
    exact List.infix_append' _ _ _

/-! ### The stop-sequence search -/

/-- The body of `matches_stop_sequence` for the decoded text `output` and this token's piece
`text` (lines 547-551); `none` where the source panics: the subtraction of line 548 underflows,
the slice of line 550 starts past the end, or a stop sequence is empty (`windows(0)`). -/
def stopSeqMatch (stopSeqs : List Text) (output text : Text) : Option Bool :=
  if output.length + 1 < text.length then none
  else
    let nextOff := output.length + 1 - text.length
    stopSeqs.anyM fun ss =>
      let start := if ss.length ≤ nextOff then nextOff - ss.length else 0
      if output.length < start then none
      else if ss.length = 0 then none
      else some ((windows ss.length (output.drop start)).any (· == ss))

/-- `TokenProcessor::matches_stop_sequence`: `none` also where `e.output.as_ref().unwrap()`
panics. -/
def matchesStopSequence (dec : Decoder σ) (e : Entry σ) (lastText : Option Text) : Option Bool :=
  match lastText with
  | none => some false
  | some text => do
    let d ← e.output
    stopSeqMatch e.params.stopSeqs (dec.output d) text

/-- The occurrence of `s` in `output` whose last byte has index `boundary` or more. -/
def EndsAtOrAfter (s output : Text) (boundary : Nat) : Prop :=
  ∃ pre post, output = pre ++ s ++ post ∧ boundary < pre.length + s.length

/-- `any` through a search that never fails. -/
theorem anyM_eq_some {α : Type} {f : α → Option Bool} {g : α → Bool} :
    ∀ {l : List α}, (∀ a ∈ l, f a = some (g a)) → l.anyM f = some (l.any g)
  | [], _ => rfl
  | a :: l, total => by
    have rest := anyM_eq_some fun b member => total b (List.mem_cons_of_mem a member)
    cases h : g a <;> simp [List.anyM, total a (List.mem_cons_self a l), h, rest]

/-- One window search at the end of `prev ++ t`, for a stop sequence `s`. -/
theorem window_search_iff {s prev t : Text} (nonempty : s ≠ []) :
    (windows s.length ((prev ++ t).drop
        (if s.length ≤ prev.length + 1 then prev.length + 1 - s.length else 0))).any (· == s) =
      true ↔ EndsAtOrAfter s (prev ++ t) prev.length := by
  have positive : 0 < s.length := List.length_pos.mpr nonempty
  rw [any_windows_eq_true nonempty, infix_drop_iff (by simp; split <;> omega)]
  refine exists_congr fun pre => exists_congr fun post => and_congr_right fun _ => ?_
  split <;> omega

/-- **The search on a text whose last piece is `t`** neither underflows nor slices out of
bounds, and finds a stop sequence exactly when one occurs with its last byte in `t`. -/
theorem stopSeqMatch_append {stopSeqs : List Text} (nonempty : ∀ s ∈ stopSeqs, s ≠ [])
    (prev t : Text) :
    ∃ b, stopSeqMatch stopSeqs (prev ++ t) t = some b ∧
      (b = true ↔ ∃ s ∈ stopSeqs, EndsAtOrAfter s (prev ++ t) prev.length) := by
  have nextOff : (prev ++ t).length + 1 - t.length = prev.length + 1 := by simp; omega
  have search : stopSeqMatch stopSeqs (prev ++ t) t = some (stopSeqs.any fun ss =>
      (windows ss.length ((prev ++ t).drop
        (if ss.length ≤ prev.length + 1 then prev.length + 1 - ss.length else 0))).any
        (· == ss)) := by
    rw [stopSeqMatch, if_neg (by simp; omega)]
    simp only [nextOff]
    refine anyM_eq_some fun ss member => ?_
    have positive : ss.length ≠ 0 := by simpa using nonempty ss member
    rw [if_neg (by rw [List.length_append]; split <;> omega), if_neg positive]
  refine ⟨_, search, ?_⟩
  rw [List.any_eq_true]
  exact exists_congr fun s => and_congr_right fun member =>
    window_search_iff (nonempty s member)

/-- A substring of `prev ++ t` lies in `prev` or ends inside `t`. -/
theorem infix_append_iff {s prev t : Text} :
    s <:+: prev ++ t ↔ s <:+: prev ∨ EndsAtOrAfter s (prev ++ t) prev.length := by
  constructor
  · rintro ⟨pre, post, equal⟩
    by_cases inside : pre.length + s.length ≤ prev.length
    · have front : pre ++ s <+: prev :=
        List.prefix_of_prefix_length_le ⟨post, by rw [equal]⟩ (List.prefix_append prev t)
          (by simpa using inside)
      exact .inl ((List.suffix_append pre s).isInfix.trans front.isInfix)
    · exact .inr ⟨pre, post, equal.symm, by omega⟩
  · rintro (found | ⟨pre, post, equal, -⟩)
    · exact found.trans (List.prefix_append prev t).isInfix
    · exact ⟨pre, post, equal.symm⟩

/-- The text after step `k` is the text after step `k - 1` followed by piece `k`. -/
theorem flatten_take_succ {ts : List Text} {k : Nat} (lt : k < ts.length) :
    (ts.take (k + 1)).flatten = (ts.take k).flatten ++ ts.getD k [] := by
  rw [List.take_succ, List.flatten_append]
  simp [List.getElem?_eq_getElem lt]

/-- One step of the search: with the decoder's text `ts[0] ++ ... ++ ts[k]`, the search for
piece `k` returns, true exactly when a stop sequence ends inside that piece. -/
theorem matchesStopSequence_step (dec : Decoder σ) {stopSeqs : List Text}
    (nonempty : ∀ s ∈ stopSeqs, s ≠ []) {ts : List Text} {k : Nat} (lt : k < ts.length)
    {e : Entry σ} (seqs : e.params.stopSeqs = stopSeqs) {d : σ} (output : e.output = some d)
    (decoded : dec.output d = (ts.take (k + 1)).flatten) :
    ∃ b, matchesStopSequence dec e (some (ts.getD k [])) = some b ∧
      (b = true ↔ ∃ s ∈ stopSeqs,
        EndsAtOrAfter s (ts.take (k + 1)).flatten (ts.take k).flatten.length) := by
  simp only [matchesStopSequence, output, Option.bind_eq_bind, Option.some_bind, seqs, decoded]
  rw [flatten_take_succ lt]
  exact stopSeqMatch_append nonempty _ _

/-- **The tail-window search agrees with a search of the whole text**: it does not panic, finds a
stop sequence exactly when one ends in the step's piece, and has found none up to step `k` exactly
when no stop sequence is in the text by then. -/
theorem matchesStopSequence_tail_window (dec : Decoder σ) {stopSeqs : List Text}
    (nonempty : ∀ s ∈ stopSeqs, s ≠ []) (ts : List Text) (e : Nat → Entry σ)
    (seqs : ∀ k < ts.length, (e k).params.stopSeqs = stopSeqs)
    (decoded : ∀ k < ts.length,
      ∃ d, (e k).output = some d ∧ dec.output d = (ts.take (k + 1)).flatten) :
    ∀ k < ts.length,
      (∃ b, matchesStopSequence dec (e k) (some (ts.getD k [])) = some b ∧
        (b = true ↔ ∃ s ∈ stopSeqs,
          EndsAtOrAfter s (ts.take (k + 1)).flatten (ts.take k).flatten.length)) ∧
      ((∀ j ≤ k, matchesStopSequence dec (e j) (some (ts.getD j [])) = some false) ↔
        ∀ j ≤ k, ∀ s ∈ stopSeqs, ¬ s <:+: (ts.take (j + 1)).flatten) := by
  have step : ∀ k (lt : k < ts.length), ∃ b,
      matchesStopSequence dec (e k) (some (ts.getD k [])) = some b ∧
        (b = true ↔ ∃ s ∈ stopSeqs,
          EndsAtOrAfter s (ts.take (k + 1)).flatten (ts.take k).flatten.length) := fun k lt =>
    let ⟨_, output, text⟩ := decoded k lt
    matchesStopSequence_step dec nonempty lt (seqs k lt) output text
  -- a search returns false exactly when no stop sequence ends inside its piece
  have quiet : ∀ k (lt : k < ts.length),
      matchesStopSequence dec (e k) (some (ts.getD k [])) = some false ↔
        ∀ s ∈ stopSeqs, ¬ EndsAtOrAfter s (ts.take (k + 1)).flatten (ts.take k).flatten.length :=
    fun k lt => by
      obtain ⟨b, search, iff⟩ := step k lt
      rw [search]
      cases b <;> simp_all
  -- the text after step `k` contains a stop sequence when the text before did or one ends in piece `k`
  have grows : ∀ k (lt : k < ts.length) s, s ∈ stopSeqs →
      (s <:+: (ts.take (k + 1)).flatten ↔ s <:+: (ts.take k).flatten ∨
        EndsAtOrAfter s (ts.take (k + 1)).flatten (ts.take k).flatten.length) :=
    fun k lt s _ => by rw [flatten_take_succ lt]; exact infix_append_iff
  intro k lt
  refine ⟨step k lt, ?_⟩
  induction k with
  | zero =>
    simp only [Nat.le_zero, forall_eq, quiet 0 lt]
    refine forall₂_congr fun s member => not_congr ?_
    rw [grows 0 lt s member]
    simp [List.infix_nil, nonempty s member]
  | succ k ih =>
    have earlier := ih (by omega)
    simp only [Nat.le_add_one_iff, or_imp, forall_and, forall_eq]
    rw [quiet (k + 1) lt, earlier]
    constructor
    · rintro ⟨before, last⟩
      refine ⟨before, fun s member found => ?_⟩
      rcases (grows (k + 1) lt s member).mp found with inside | ends
      · exact before k le_rfl s member inside
      · exact last s member ends
    · rintro ⟨before, last⟩
      refine ⟨before, fun s member ends => last s member ?_⟩
      exact (grows (k + 1) lt s member).mpr (.inr ends)

/-- A decoder whose state is its text so far, each token id one byte. -/
def byteDecoder : Decoder Text where
  eosTokenId := 0
  seq2seq := false
  start := []
  next d token := (d ++ [token.toUInt8], .ok [token.toUInt8])
  flush d := (d, .ok [])
  output d := d
  idToToken token := [token.toUInt8]

/-- An entry whose decoder holds `text`, with the stop sequences `stopSeqs`. -/
def decodingEntry (stopSeqs : List Text) (text : Text) : Entry Text :=
  { request := ⟨[], ⟨0, 16, false, stopSeqs, none, none, false, false⟩⟩, inputLength := 0,
    queueTime := 0, batchTime := some 0, generatedTokens := 0, tokenIds := [], tokens := [],
    inputTokens := [], output := some text, channel := .unary }

/-- The stop sequence `"END"` decoded as `"E"`, `"ND"`, `"!"`: the search is quiet at the first
piece and finds the sequence across the boundary at the second. -/
theorem matchesStopSequence_end_split :
    (∃ b, matchesStopSequence byteDecoder (decodingEntry [[69, 78, 68]] [69, 78, 68])
        (some ([[69], [78, 68], [33]].getD 1 [])) = some b ∧
      (b = true ↔ ∃ s ∈ [[(69 : UInt8), 78, 68]], EndsAtOrAfter s
        ([[(69 : UInt8)], [78, 68], [33]].take 2).flatten
        ([[(69 : UInt8)], [78, 68], [33]].take 1).flatten.length)) ∧
      ((∀ j ≤ 1, matchesStopSequence byteDecoder
          (decodingEntry [[69, 78, 68]] ([[69], [78, 68], [33]].take (j + 1)).flatten)
          (some ([[69], [78, 68], [33]].getD j [])) = some false) ↔
        ∀ j ≤ 1, ∀ s ∈ [[(69 : UInt8), 78, 68]],
          ¬ s <:+: ([[(69 : UInt8)], [78, 68], [33]].take (j + 1)).flatten) :=
  matchesStopSequence_tail_window byteDecoder (by decide) [[69], [78, 68], [33]]
    (fun k => decodingEntry [[69, 78, 68]] ([[69], [78, 68], [33]].take (k + 1)).flatten)
    (fun _ _ => rfl) (fun _ _ => ⟨_, rfl, rfl⟩) 1 (by decide)

/-! ### The stopping criteria -/

/-- Whether `Instant::now()`, read as `now`, is past the request's deadline. -/
def deadlinePassed (params : Params) (now : Nat) : Bool :=
  match params.deadline with
  | some deadline => deadline < now
  | none => false

/-- `TokenProcessor::check_stopping_criteria`, with `Instant::now()` read as `now`; `none` where
the stop-sequence search panics. The first test that holds gives the reason. -/
def checkStoppingCriteria (dec : Decoder σ) (now : Nat) (e : Entry σ) (lastTokenId : Nat)
    (lastText : Option Text) : Option StopReason :=
  if deadlinePassed e.params now then some .timeLimit
  else if e.generatedTokens < e.params.minNewTokens then some .notFinished
  else if lastTokenId = dec.eosTokenId then some .eosToken
  else if e.params.maxNewTokens ≤ e.generatedTokens then
    some (if e.params.maxIsTokenLimit then .tokenLimit else .maxTokens)
  else (fun found => if found then .stopSequence else .notFinished) <$>
    matchesStopSequence dec e lastText

/-- An entry that is not finished has generated fewer tokens than its minimum or its maximum. -/
theorem lt_of_checkStoppingCriteria {dec : Decoder σ} {now : Nat} {e : Entry σ} {lastTokenId : Nat}
    {lastText : Option Text}
    (notFinished : checkStoppingCriteria dec now e lastTokenId lastText = some .notFinished) :
    e.generatedTokens < e.params.minNewTokens ∨ e.generatedTokens < e.params.maxNewTokens := by
  unfold checkStoppingCriteria at notFinished
  split_ifs at notFinished with _ below _ above <;>
    first
    | exact .inl below
    | exact .inr (UInt32.not_le.mp above)
    | simp at notFinished

/-- A deadline that passed was set. -/
theorem deadline_isSome_of_passed {params : Params} {now : Nat}
    (passed : deadlinePassed params now = true) : params.deadline.isSome := by
  unfold deadlinePassed at passed
  split at passed
  · simp [*]
  · cases passed

/-- The search finds a stop sequence only in a request that has one. -/
theorem stopSeqs_ne_nil_of_matches {dec : Decoder σ} {e : Entry σ} {lastText : Option Text}
    (found : matchesStopSequence dec e lastText = some true) : e.params.stopSeqs ≠ [] := by
  intro noStops
  cases lastText with
  | none => cases found
  | some text =>
    obtain ⟨d, -, search⟩ := Option.bind_eq_some.mp found
    unfold stopSeqMatch at search
    split_ifs at search
    rw [noStops] at search
    cases search

/-- **Why the criteria stop an entry**: the deadline; or, past its minimum, the end-of-sequence
token, the maximum (`TokenLimit` when asked for, `MaxTokens` otherwise), or a stop sequence. -/
theorem checkStoppingCriteria_stopped {dec : Decoder σ} {now : Nat} {e : Entry σ}
    {lastTokenId : Nat} {lastText : Option Text} {reason : StopReason}
    (check : checkStoppingCriteria dec now e lastTokenId lastText = some reason)
    (stopped : reason ≠ .notFinished) :
    (reason = .timeLimit ∧ deadlinePassed e.params now = true) ∨
      e.params.minNewTokens ≤ e.generatedTokens ∧
        (reason = .eosToken ∧ lastTokenId = dec.eosTokenId ∨
          e.params.maxNewTokens ≤ e.generatedTokens ∧
            reason = (if e.params.maxIsTokenLimit then .tokenLimit else .maxTokens) ∨
          reason = .stopSequence ∧ matchesStopSequence dec e lastText = some true) := by
  unfold checkStoppingCriteria at check
  by_cases deadline : deadlinePassed e.params now = true
  · rw [if_pos deadline] at check
    exact .inl ⟨(Option.some.inj check).symm, deadline⟩
  rw [if_neg deadline] at check
  by_cases below : e.generatedTokens < e.params.minNewTokens
  · rw [if_pos below] at check
    exact absurd (Option.some.inj check).symm stopped
  rw [if_neg below] at check
  refine .inr ⟨UInt32.not_lt.mp below, ?_⟩
  by_cases eos : lastTokenId = dec.eosTokenId
  · rw [if_pos eos] at check
    exact .inl ⟨(Option.some.inj check).symm, eos⟩
  rw [if_neg eos] at check
  by_cases above : e.params.maxNewTokens ≤ e.generatedTokens
  · rw [if_pos above] at check
    exact .inr (.inl ⟨above, (Option.some.inj check).symm⟩)
  rw [if_neg above] at check
  obtain ⟨found, search, rfl⟩ := Option.map_eq_some'.mp check
  cases found
  · exact absurd rfl stopped
  · exact .inr (.inr ⟨rfl, search⟩)

/-- The criteria panic only where the stop-sequence search does. -/
theorem checkStoppingCriteria_isSome {dec : Decoder σ} (now : Nat) {e : Entry σ}
    (lastTokenId : Nat) {lastText : Option Text}
    (search : (matchesStopSequence dec e lastText).isSome) :
    (checkStoppingCriteria dec now e lastTokenId lastText).isSome := by
  unfold checkStoppingCriteria
  split_ifs <;> simp [search]

/-- The search of a decoded text that ends with the piece does not panic. -/
theorem matchesStopSequence_isSome {dec : Decoder σ} {e : Entry σ}
    (nonempty : ∀ s ∈ e.params.stopSeqs, s ≠ []) {d : σ} (output : e.output = some d)
    {piece : Text} (ends : piece <:+ dec.output d) :
    (matchesStopSequence dec e (some piece)).isSome := by
  obtain ⟨prev, text⟩ := ends
  obtain ⟨b, search, -⟩ := stopSeqMatch_append nonempty prev piece
  simp [matchesStopSequence, output, ← text, search]

end Batching
