import EngineHost.Console.Block
import EngineHost.Proofs.Console.Delivery

/-!
# Captures in any order

Captures may be acquired and released in any order, and the console may then point at the buffers of
a capture that is no longer held; a capture may even find its own buffers and put them back. But the
two current streams always belong together, so output and errors are never mixed up, and every text
that is written is delivered to one stream.

Main facts: `Console.Paired.perform` (the streams stay together), `map_deliveries` (every write is
delivered, on its own side), `text_performEach` (nothing else reaches a stream),
`performEach_accounts`.
-/

namespace EngineHost

/-- The two streams have one owner: they are the process's own, or the buffers of one capture. -/
def StreamPair.IsMatched (p : StreamPair) : Prop := ∃ owner, p = .of owner

theorem StreamPair.IsMatched.channel_get {p : StreamPair} (h : p.IsMatched) (channel : Channel) :
    (p.get channel).channel = channel := by
  obtain ⟨owner, rfl⟩ := h
  cases channel <;> rfl

/-- The current streams belong together, and so do those that each held capture will put back. -/
structure Console.Paired (c : Console) : Prop where
  current : c.current.IsMatched
  saved : ∀ id pair, c.saved id = some pair → pair.IsMatched

namespace ConsoleStep

/-- The step acquires a capture, releases one or writes. -/
def isPlain : ConsoleStep → Bool
  | .acquire _ => true
  | .release _ => true
  | .write _ _ => true
  | _ => false

/-- Perform steps one after another, whatever signals leave them. -/
def performEach (steps : List ConsoleStep) (c : Console) : Console :=
  steps.foldl (fun c step => (step.perform c).2) c

/-- The text that the step asks to write, and to which side. -/
def written? : ConsoleStep → Option (Channel × String)
  | .write channel text => some (channel, text)
  | _ => none

/-- The delivery that the step makes: a text goes to the stream that is current at that moment. -/
def delivery? (c : Console) : ConsoleStep → Option Delivery
  | .write channel text => some ⟨c.current.get channel, text⟩
  | _ => none

def deliveries : List ConsoleStep → Console → List Delivery
  | [], _ => []
  | step :: rest, c => (step.delivery? c).toList ++ deliveries rest (step.perform c).2

theorem performEach_append (a b : List ConsoleStep) (c : Console) :
    performEach (a ++ b) c = performEach b (performEach a c) :=
  List.foldl_append

/-! ## Single steps -/

theorem perform_acquire_of_holds {c : Console} {id : Nat} (h : c.holds id = true) :
    (acquire id).perform c = (some (.of .runtime "console capture already acquired"), c) := by
  rw [perform, (c.acquire_eq_error_iff id).mpr h]
  rfl

theorem perform_acquire_of_not_holds {c : Console} {id : Nat} (h : c.holds id = false) :
    (acquire id).perform c = (none, c.redirect id) := by
  rw [perform, c.acquire_of_not_held h]

theorem text_perform {step : ConsoleStep} (hplain : step.isPlain = true) (c : Console)
    (stream : Stream) :
    (step.perform c).2.text stream =
      c.text stream ++ Delivery.received stream (step.delivery? c).toList := by
  have hsilent : ∀ {c' : Console}, c'.text = c.text →
      c'.text stream = c.text stream ++ Delivery.received stream [] := by
    intro c' htext
    rw [htext, Delivery.received_nil, String.append_empty]
  cases step with
  | acquire id =>
    apply hsilent
    cases h : c.holds id with
    | true => rw [perform_acquire_of_holds h]
    | false => rw [perform_acquire_of_not_holds h, Console.text_redirect]
  | release id => exact hsilent (c.text_release id)
  | write channel text =>
    show (c.write channel text).text stream =
      c.text stream ++ Delivery.received stream [⟨c.current.get channel, text⟩]
    rw [Console.text_write, Delivery.received_singleton]
    by_cases h : stream = c.current.get channel
    · rw [if_pos h, if_pos h.symm]
    · rw [if_neg h, if_neg (Ne.symm h), String.append_empty]
  | raise s => contradiction
  | within id body => contradiction
  | attempt caught body handler => contradiction

end ConsoleStep

namespace Console

theorem paired_fresh : fresh.Paired where
  current := ⟨.ambient, rfl⟩
  saved _ _ h := by contradiction

theorem Paired.redirect {c : Console} (h : c.Paired) (id : Nat) : (c.redirect id).Paired where
  current := ⟨.capture id, rfl⟩
  saved other pair hsaved := by
    by_cases hother : other = id
    · have hpair : pair = c.current := by simpa [Console.redirect, hother] using hsaved.symm
      rw [hpair]
      exact h.current
    · have hbefore : c.saved other = some pair := by simpa [Console.redirect, hother] using hsaved
      exact h.saved other pair hbefore

-- What a capture puts back belonged together when it was saved.
theorem Paired.release {c : Console} (h : c.Paired) (id : Nat) : (c.release id).Paired := by
  unfold Console.release
  cases hid : c.saved id with
  | none => exact h
  | some pair =>
    refine ⟨h.saved id pair hid, fun other pair' hsaved => ?_⟩
    by_cases hother : other = id
    · simp [hother] at hsaved
    · have hbefore : c.saved other = some pair' := by simpa [hother] using hsaved
      exact h.saved other pair' hbefore

theorem Paired.perform {c : Console} (h : c.Paired) {step : ConsoleStep}
    (hplain : step.isPlain = true) : (step.perform c).2.Paired := by
  cases step with
  | acquire id =>
    cases hid : c.holds id with
    | true =>
      rw [ConsoleStep.perform_acquire_of_holds hid]
      exact h
    | false =>
      rw [ConsoleStep.perform_acquire_of_not_holds hid]
      exact h.redirect id
  | release id => exact h.release id
  | write channel text => exact ⟨h.current, h.saved⟩
  | raise s => contradiction
  | within id body => contradiction
  | attempt caught body handler => contradiction

theorem Paired.map_delivery? {c : Console} (h : c.Paired) (step : ConsoleStep) :
    (step.delivery? c).map (fun d => (d.stream.channel, d.text)) = step.written? := by
  cases step with
  | write channel text =>
    show some ((c.current.get channel).channel, text) = some (channel, text)
    rw [h.current.channel_get]
  | _ => rfl

end Console

/-! ## Sequences of steps -/

namespace ConsoleStep

variable {steps : List ConsoleStep} {start : Console}

theorem paired_performEach (hstart : start.Paired) (hplain : ∀ step ∈ steps, step.isPlain = true) :
    (performEach steps start).Paired := by
  induction steps generalizing start with
  | nil => exact hstart
  | cons step rest ih =>
    have hstep := hstart.perform (hplain step List.mem_cons_self)
    exact ih hstep fun s hs => hplain s (List.mem_cons_of_mem _ hs)

/-- Every text that is written is delivered, in order and on its own side, and nothing else is. -/
theorem map_deliveries (hstart : start.Paired) (hplain : ∀ step ∈ steps, step.isPlain = true) :
    (deliveries steps start).map (fun d => (d.stream.channel, d.text)) =
      steps.filterMap written? := by
  induction steps generalizing start with
  | nil => rfl
  | cons step rest ih =>
    have hstep := hstart.perform (hplain step List.mem_cons_self)
    have hrest := ih hstep fun s hs => hplain s (List.mem_cons_of_mem _ hs)
    rw [deliveries, List.map_append, hrest, ← Option.toList_map, hstart.map_delivery?,
      List.filterMap_cons]
    cases step.written? with
    | none => rfl
    | some w => rfl

theorem text_performEach (hplain : ∀ step ∈ steps, step.isPlain = true) (c : Console)
    (stream : Stream) :
    (performEach steps c).text stream =
      c.text stream ++ Delivery.received stream (deliveries steps c) := by
  induction steps generalizing c with
  | nil => rw [deliveries, Delivery.received_nil, String.append_empty]; rfl
  | cons step rest ih =>
    have hrest := ih (fun s hs => hplain s (List.mem_cons_of_mem _ hs)) (step.perform c).2
    have hstep := text_perform (hplain step List.mem_cons_self) c stream
    rw [deliveries, Delivery.received_append, ← String.append_assoc, ← hstep]
    exact hrest

/-- Captures that are acquired and released in any order, with writes between.

In every state that is reached, the streams belong together and a write reaches the one that is
current for its side. What was written in all has been delivered in order, each text to one stream of
its own side; a stream has received what was delivered to it and nothing else, and so has lost
nothing since any earlier moment. Acquiring fails exactly if the capture is held, and then nothing
changes; nothing changes either if a capture is released that is not held. -/
theorem performEach_accounts (hstart : start.Paired)
    (hplain : ∀ step ∈ steps, step.isPlain = true) :
    let c := performEach steps start
    let ds := deliveries steps start
    c.Paired ∧
    (∀ channel text stream, (c.write channel text).text stream =
      if stream = c.current.get channel then c.text stream ++ text else c.text stream) ∧
    ds.map (fun d => (d.stream.channel, d.text)) = steps.filterMap written? ∧
    (∀ stream, c.text stream = start.text stream ++ Delivery.received stream ds) ∧
    (∀ n stream, ∃ more,
      c.text stream = (performEach (steps.take n) start).text stream ++ more) ∧
    (∀ id, ((acquire id).perform c).1 ≠ none ↔ c.holds id = true) ∧
    (∀ id, c.holds id = true →
      (acquire id).perform c = (some (.of .runtime "console capture already acquired"), c)) ∧
    ∀ id, c.holds id = false → (release id).perform c = (none, c) := by
  intro c ds
  refine ⟨paired_performEach hstart hplain, c.text_write, map_deliveries hstart hplain,
    text_performEach hplain start, ?_, ?_, fun id => perform_acquire_of_holds, ?_⟩
  · intro n stream
    have hrest : ∀ step ∈ steps.drop n, step.isPlain = true :=
      fun s hs => hplain s (List.mem_of_mem_drop hs)
    have hlater := text_performEach hrest (performEach (steps.take n) start) stream
    rw [← performEach_append, List.take_append_drop] at hlater
    exact ⟨_, hlater⟩
  · intro id
    cases h : c.holds id with
    | true => simp [perform_acquire_of_holds h]
    | false => simp [perform_acquire_of_not_holds h]
  · intro id h
    rw [perform, c.release_of_not_held h]

/-- Two captures released in the order in which they were acquired. The first one then finds its own
buffers when it is acquired again. -/
def crossed : List ConsoleStep :=
  [.acquire 0, .acquire 1, .release 0, .write .out "x", .release 1, .acquire 0, .acquire 0,
    .write .err "y"]

theorem performEach_accounts_crossed :
    Console.fresh.Paired ∧ (∀ step ∈ crossed, step.isPlain = true) ∧
    let c := performEach crossed Console.fresh
    c.saved 0 = some (.of (.capture 0)) ∧ ((acquire 0).perform c).1 ≠ none ∧
      c.ambient .out = "x" ∧ c.captured 0 .err = "y" ∧ c.captured 0 .out = "" := by
  have hplain : ∀ step ∈ crossed, step.isPlain = true := by decide +kernel
  obtain ⟨-, -, -, htext, -, hfails, -⟩ := performEach_accounts Console.paired_fresh hplain
  refine ⟨Console.paired_fresh, hplain, rfl, (hfails 0).mpr rfl, ?_, ?_, ?_⟩
  · rw [Console.ambient, htext]
    decide +kernel
  · rw [Console.captured, htext]
    decide +kernel
  · rw [Console.captured, htext]
    decide +kernel

end ConsoleStep

end EngineHost
