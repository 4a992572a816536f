import EngineHost.Console.Block
import EngineHost.Proofs.Console.Delivery

/-!
# Programs of blocks

In a program that holds captures for blocks only, the place of a write decides where its text goes:
to the buffers of the innermost block around it that has begun. A block of a capture that a block
around it holds already does not begin. `ConsoleStep.course` says this by the nesting alone, without
a console: it keeps no streams to put back.

Main facts: `perform_eq_course` (performing a program makes the deliveries of its course and changes
nothing else), `stream_of_mem_course` (what is held around a block receives nothing from it),
`perform_within_scoped`.
-/

namespace EngineHost

/-- What surrounds a step: the streams of the innermost block that has begun, and which captures are
held. -/
structure Surroundings where
  streams : StreamPair
  held : Nat → Bool

def Surroundings.enter (s : Surroundings) (id : Nat) : Surroundings where
  streams := .of (.capture id)
  held other := other = id || s.held other

def Console.surroundings (c : Console) : Surroundings := ⟨c.current, c.holds⟩

mutual

/-- Does the step hold captures for blocks only? -/
def ConsoleStep.isStructured : ConsoleStep → Bool
  | .acquire _ => false
  | .release _ => false
  | .write _ _ => true
  | .raise _ => true
  | .within _ body => ConsoleStep.areStructured body
  | .attempt _ body handler => ConsoleStep.areStructured body && ConsoleStep.areStructured handler

def ConsoleStep.areStructured : List ConsoleStep → Bool
  | [] => true
  | step :: rest => step.isStructured && ConsoleStep.areStructured rest

end

mutual

/-- What a step comes to by its surroundings alone: the signal that leaves it, if any, and the
deliveries it makes until then. -/
def ConsoleStep.course : ConsoleStep → Surroundings → Option Signal × List Delivery
  | .write channel text, s => (none, [⟨s.streams.get channel, text⟩])
  | .raise signal, _ => (some signal, [])
  | .within id body, s =>
    if s.held id then (some (.of .runtime "console capture already acquired"), [])
    else ConsoleStep.courseAll body (s.enter id)
  | .attempt caught body handler, s =>
    match ConsoleStep.courseAll body s with
    | (none, ds) => (none, ds)
    | (some signal, ds) =>
      if caught signal then
        ((ConsoleStep.courseAll handler s).1, ds ++ (ConsoleStep.courseAll handler s).2)
      else (some signal, ds)
  -- No step of a program of blocks.
  | .acquire _, _ => (none, [])
  | .release _, _ => (none, [])

def ConsoleStep.courseAll : List ConsoleStep → Surroundings → Option Signal × List Delivery
  | [], _ => (none, [])
  | step :: rest, s =>
    match step.course s with
    | (none, ds) => ((ConsoleStep.courseAll rest s).1, ds ++ (ConsoleStep.courseAll rest s).2)
    | (some signal, ds) => (some signal, ds)

end

namespace Console

/-! ## Surroundings of a console -/

@[simp] theorem surroundings_deliver (c : Console) (ds : List Delivery) :
    (c.deliver ds).surroundings = c.surroundings := by
  have hholds : (c.deliver ds).holds = c.holds := by
    funext id
    rw [holds, saved_deliver, holds]
  rw [surroundings, current_deliver, hholds, surroundings]

theorem surroundings_redirect (c : Console) (id : Nat) :
    (c.redirect id).surroundings = c.surroundings.enter id := by
  have hholds : (c.redirect id).holds = fun other => decide (other = id) || c.holds other := by
    funext other
    by_cases h : other = id <;> simp [holds, redirect, h]
  rw [surroundings, hholds]
  rfl

theorem release_deliver_redirect (c : Console) {id : Nat} (h : c.holds id = false)
    (ds : List Delivery) : ((c.redirect id).deliver ds).release id = c.deliver ds := by
  rw [release_deliver, release_redirect c h]

end Console

/-! ## A program takes its course -/

namespace ConsoleStep

theorem perform_within_of_holds {id : Nat} {c : Console} (hheld : c.holds id = true)
    (body : List ConsoleStep) :
    (within id body).perform c =
      (some (.of .runtime "console capture already acquired"), c) := by
  rw [perform, (c.acquire_eq_error_iff id).mpr hheld]
  rfl

mutual

-- By induction on steps and programs. A step is performed wherever its surroundings are those of the
-- console, and deliveries leave them as they are.
theorem perform_eq_course (step : ConsoleStep) (h : step.isStructured = true) (c : Console) :
    step.perform c =
      ((step.course c.surroundings).1, c.deliver (step.course c.surroundings).2) := by
  cases step with
  | acquire id => contradiction
  | release id => contradiction
  | write channel text => rfl
  | raise s => rfl
  | within id body =>
    rw [isStructured] at h
    by_cases hheld : c.holds id = true
    · have hsurrounded : c.surroundings.held id = true := hheld
      rw [perform_within_of_holds hheld, course, if_pos hsurrounded]
      rfl
    · have hfree : c.holds id = false := Bool.eq_false_iff.mpr hheld
      have hsurrounded : ¬ c.surroundings.held id = true := hheld
      rw [perform, course, c.acquire_of_not_held hfree, if_neg hsurrounded]
      simp only [performAll_eq_course body h (c.redirect id), c.surroundings_redirect id]
      rw [c.release_deliver_redirect hfree]
  | attempt caught body handler =>
    rw [isStructured, Bool.and_eq_true] at h
    rw [perform, course, performAll_eq_course body h.1 c]
    rcases courseAll body c.surroundings with ⟨left, ds⟩
    cases left with
    | none => rfl
    | some s =>
      simp only
      split
      · rw [performAll_eq_course handler h.2, Console.surroundings_deliver, ← Console.deliver_append]
      · rfl

theorem performAll_eq_course (steps : List ConsoleStep) (h : areStructured steps = true)
    (c : Console) :
    performAll steps c =
      ((courseAll steps c.surroundings).1, c.deliver (courseAll steps c.surroundings).2) := by
  cases steps with
  | nil => rfl
  | cons step rest =>
    rw [areStructured, Bool.and_eq_true] at h
    rw [performAll, courseAll, perform_eq_course step h.1 c]
    rcases step.course c.surroundings with ⟨left, ds⟩
    cases left with
    | none =>
      simp only
      rw [performAll_eq_course rest h.2, Console.surroundings_deliver, ← Console.deliver_append]
    | some s => rfl

end

/-! ## Where the texts go -/

/-- A stream that a step may write to: one around it, or one of a capture that is not held yet. -/
def Reaches (s : Surroundings) (stream : Stream) : Prop :=
  (∃ channel, stream = s.streams.get channel) ∨
    ∃ id channel, stream = ⟨.capture id, channel⟩ ∧ s.held id = false

/-- From inside a block nothing is reached but the capture of the block and those that are not held
around it. -/
theorem Reaches.of_enter {s : Surroundings} {id : Nat} (hfree : s.held id = false)
    {stream : Stream} (h : Reaches (s.enter id) stream) :
    ∃ other channel, stream = ⟨.capture other, channel⟩ ∧ s.held other = false := by
  rcases h with ⟨channel, rfl⟩ | ⟨other, channel, rfl, hother⟩
  · cases channel with
    | out => exact ⟨id, .out, rfl, hfree⟩
    | err => exact ⟨id, .err, rfl, hfree⟩
  · rw [Surroundings.enter, Bool.or_eq_false_iff] at hother
    exact ⟨other, channel, rfl, hother.2⟩

mutual

theorem stream_of_mem_course (step : ConsoleStep) (s : Surroundings) {d : Delivery}
    (hd : d ∈ (step.course s).2) : Reaches s d.stream := by
  cases step with
  | acquire id => contradiction
  | release id => contradiction
  | write channel text =>
    rw [course, List.mem_singleton] at hd
    exact .inl ⟨channel, by rw [hd]⟩
  | raise signal => contradiction
  | within id body =>
    rw [course] at hd
    split at hd
    · contradiction
    next hfree =>
      rw [Bool.not_eq_true] at hfree
      exact .inr ((stream_of_mem_courseAll body _ hd).of_enter hfree)
  | attempt caught body handler =>
    have hbody := stream_of_mem_courseAll body s (d := d)
    rw [course] at hd
    rcases hcourse : courseAll body s with ⟨left, ds⟩
    rw [hcourse] at hbody hd
    cases left with
    | none => exact hbody hd
    | some signal =>
      simp only at hd
      split at hd
      · rcases List.mem_append.mp hd with hd | hd
        · exact hbody hd
        · exact stream_of_mem_courseAll handler s hd
      · exact hbody hd

theorem stream_of_mem_courseAll (steps : List ConsoleStep) (s : Surroundings) {d : Delivery}
    (hd : d ∈ (courseAll steps s).2) : Reaches s d.stream := by
  cases steps with
  | nil => contradiction
  | cons step rest =>
    have hstep := stream_of_mem_course step s (d := d)
    rw [courseAll] at hd
    rcases hcourse : step.course s with ⟨left, ds⟩
    rw [hcourse] at hstep hd
    cases left with
    | none =>
      rcases List.mem_append.mp hd with hd | hd
      · exact hstep hd
      · exact stream_of_mem_courseAll rest s hd
    | some signal => exact hstep hd

end

/-- No stream that is the process's own or of a capture held around a block is reached from inside. -/
theorem received_courseAll_enter {s : Surroundings} {id : Nat} (hfree : s.held id = false)
    (body : List ConsoleStep) {stream : Stream} (houtside : stream.owner = .ambient ∨
      ∃ other, stream.owner = .capture other ∧ s.held other = true) :
    Delivery.received stream (courseAll body (s.enter id)).2 = "" := by
  apply Delivery.received_eq_empty
  rintro d hd rfl
  obtain ⟨other, channel, hstream, hother⟩ := (stream_of_mem_courseAll body _ hd).of_enter hfree
  rw [hstream] at houtside
  rcases houtside with houtside | ⟨held, howner, hheld⟩
  · contradiction
  · cases howner
    exact absurd (hother.symm.trans hheld) Bool.false_ne_true

/-! ## Blocks -/

theorem perform_within_of_not_holds {id : Nat} {body : List ConsoleStep}
    (hbody : areStructured body = true) {c : Console} (hfree : c.holds id = false) :
    (within id body).perform c =
      ((courseAll body (c.surroundings.enter id)).1,
        c.deliver (courseAll body (c.surroundings.enter id)).2) := by
  have hsurrounded : ¬ c.surroundings.held id = true := Bool.eq_false_iff.mp hfree
  have hstep : (within id body).isStructured = true := hbody
  rw [perform_eq_course _ hstep c, course, if_neg hsurrounded]

theorem areStructured_take {steps : List ConsoleStep} (h : areStructured steps = true) (n : Nat) :
    areStructured (steps.take n) = true := by
  induction steps generalizing n with
  | nil => rw [List.take_nil, areStructured]
  | cons step rest ih =>
    rw [areStructured, Bool.and_eq_true] at h
    cases n with
    | zero => rfl
    | succ n => rw [List.take_succ_cons, areStructured, h.1, ih h.2 n, Bool.and_true]

theorem saved_perform {step : ConsoleStep} (h : step.isStructured = true) (c : Console) :
    (step.perform c).2.saved = c.saved := by
  rw [perform_eq_course step h c, Console.saved_deliver]

-- So between the steps of a program the current streams are always the same.
theorem current_performAll {steps : List ConsoleStep} (h : areStructured steps = true)
    (c : Console) : (performAll steps c).2.current = c.current := by
  rw [performAll_eq_course steps h c, Console.current_deliver]

/-- What a block does at a console, be it the console of a process or of a point in a program.

When it ends, by a signal too, the current streams and the captures that are held are those from
before it. If its capture is held already, it fails at once, and nothing whatever has changed. If
not, its body takes its course: a stream has received what the course delivers to it, after what it
had before. Between the steps of the body the buffers of this capture are current, and no stream that
is the process's own or of a capture held around the block receives anything. -/
theorem perform_within_scoped (id : Nat) {body : List ConsoleStep}
    (hbody : areStructured body = true) (c : Console) :
    let left := ((within id body).perform c).1
    let after := ((within id body).perform c).2
    let inner := courseAll body (c.surroundings.enter id)
    (after.current = c.current ∧ ∀ other, after.holds other = c.holds other) ∧
    (c.holds id = true →
      left = some (.of .runtime "console capture already acquired") ∧ after = c) ∧
    (c.holds id = false → left = inner.1 ∧
      (∀ stream, after.text stream = c.text stream ++ Delivery.received stream inner.2) ∧
      ∀ n, (performAll (body.take n) (c.redirect id)).2.current = .of (.capture id)) ∧
    ∀ stream : Stream,
      (stream.owner = .ambient ∨ ∃ other, stream.owner = .capture other ∧ c.holds other = true) →
        after.text stream = c.text stream := by
  intro left after inner
  have hstep : (within id body).isStructured = true := hbody
  refine ⟨⟨?_, fun other => ?_⟩, ?_, ?_, ?_⟩
  · show ((within id body).perform c).2.current = c.current
    rw [perform_eq_course _ hstep c, Console.current_deliver]
  · rw [Console.holds, saved_perform hstep c, Console.holds]
  · intro hheld
    have hfails := perform_within_of_holds hheld body
    exact ⟨congrArg Prod.fst hfails, congrArg Prod.snd hfails⟩
  · intro hfree
    have hruns := perform_within_of_not_holds hbody hfree
    refine ⟨congrArg Prod.fst hruns, fun stream => ?_, fun n => ?_⟩
    · rw [← c.text_deliver inner.2]
      exact congrArg (fun done => done.2.text stream) hruns
    · exact current_performAll (areStructured_take hbody n) (c.redirect id)
  · intro stream houtside
    by_cases hheld : c.holds id = true
    · have hfails := perform_within_of_holds hheld body
      exact congrArg (fun done => done.2.text stream) hfails
    · rw [Bool.not_eq_true] at hheld
      have hruns := perform_within_of_not_holds hbody hheld
      have htext := c.text_deliver inner.2 stream
      rw [received_courseAll_enter hheld body houtside, String.append_empty] at htext
      rw [← htext]
      exact congrArg (fun done => done.2.text stream) hruns

/-- A block that tries to begin again inside itself, and that an interrupt leaves through a block of
another capture. -/
def reentered : List ConsoleStep :=
  [.write .out "a", .attempt (fun _ => true) [.within 0 [.write .out "lost"]] [.write .out "b"],
    .within 1 [.write .err "c", .raise (.of .interrupt "enough")], .write .out "never"]

theorem perform_within_scoped_reentered :
    areStructured reentered = true ∧ Console.fresh.holds 0 = false ∧
    let after := ((within 0 reentered).perform Console.fresh).2
    after.current = .of .ambient ∧ after.holds 0 = false ∧ after.holds 1 = false ∧
    after.captured 0 .out = "ab" ∧ after.captured 1 .err = "c" ∧ after.ambient .out = "" := by
  have hbody : areStructured reentered = true := by decide +kernel
  obtain ⟨⟨hcurrent, hholds⟩, -, hruns, houtside⟩ :=
    perform_within_scoped 0 hbody Console.fresh
  obtain ⟨-, htext, -⟩ := hruns rfl
  refine ⟨hbody, rfl, hcurrent, hholds 0, hholds 1, ?_, ?_, houtside ⟨.ambient, .out⟩ (.inl rfl)⟩
  · rw [Console.captured, htext]
    decide +kernel
  · rw [Console.captured, htext]
    decide +kernel

end ConsoleStep

end EngineHost
