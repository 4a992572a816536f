import EngineHost.Engine.Termination

/-!
# Ways to end

What a host makes of the ending of a run is decided by the outermost layer of the signal, and for a
wrapped signal by the one below it; causes and contexts do not count. A run ends by returning, by
the signal of the exit capability (`Stops`), by a request to leave the process, by a signal that
says that a failure has been reported (`SaysReported`), by an interrupt (`Interrupts`), or by a
fault (`IsFault`), which is everything else.
-/

namespace EngineHost

namespace Signal

def Stops (s : Signal) : Prop := ∃ message, s.body = .plain .stop message

def Leaves (s : Signal) : Prop := ∃ code, s.body = .exit code

/-- The signal is a keyboard interrupt or the closing of a generator. -/
def Interrupts (s : Signal) : Prop :=
  ∃ kind message, s.body = .plain kind message ∧ (kind = .interrupt ∨ kind = .generatorClose)

def IsReport (s : Signal) : Prop :=
  ∃ kind message, s.body = .plain kind message ∧ (kind = .reported ∨ kind = .reportedVariant)

/-- The signal is a report of failure, bare or in one wrapping. -/
def SaysReported (s : Signal) : Prop :=
  s.IsReport ∨ ∃ inner, s.body = .wrapped inner ∧ inner.IsReport

/-- The signal is an ordinary one that a host cannot make sense of. -/
def IsFault (s : Signal) : Prop :=
  ¬ s.Leaves ∧ ¬ s.Interrupts ∧ ¬ s.Stops ∧ ¬ s.SaysReported

theorem stops_iff (s : Signal) : s.Stops ↔ s.isStop = true := by
  unfold Stops isStop
  rcases s.body with ⟨kind, message⟩ | code | inner
  · cases kind <;> simp
  · simp
  · simp

theorem isReport_iff (s : Signal) : s.IsReport ↔ s.isReportedItself = true := by
  unfold IsReport isReportedItself
  rcases s.body with ⟨kind, message⟩ | code | inner
  · cases kind <;> simp [SignalKind.isReported]
  · simp
  · simp

theorem saysReported_iff (s : Signal) : s.SaysReported ↔ s.isReported = true := by
  unfold SaysReported isReported
  rw [isReport_iff]
  rcases hbody : s.body with ⟨kind, message⟩ | code | inner
  · simp
  · simp
  · have hitself : s.isReportedItself = false := by simp [isReportedItself, hbody]
    simp [hitself, isReport_iff]

theorem isOrdinary_iff (s : Signal) : s.isOrdinary = true ↔ ¬ s.Leaves ∧ ¬ s.Interrupts := by
  unfold Leaves Interrupts isOrdinary
  rcases s.body with ⟨kind, message⟩ | code | inner
  · cases kind <;> simp [SignalKind.isOrdinary]
  · simp
  · simp

theorem isFault_iff (s : Signal) :
    s.IsFault ↔ s.isOrdinary = true ∧ s.isStop = false ∧ s.isReported = false := by
  unfold IsFault
  rw [isOrdinary_iff, stops_iff, saysReported_iff, Bool.not_eq_true, Bool.not_eq_true, and_assoc]

-- Only the body decides.
theorem isFault_congr {s t : Signal} (h : s.body = t.body) : s.IsFault ↔ t.IsFault := by
  unfold IsFault Leaves Interrupts Stops SaysReported IsReport
  rw [h]

theorem Interrupts.not_isOrdinary {s : Signal} (h : s.Interrupts) : s.isOrdinary = false := by
  rw [← Bool.not_eq_true, isOrdinary_iff]
  exact fun hordinary => hordinary.2 h

/-- Something wrapped that is no bare report is a fault, whatever is further inside. -/
theorem isFault_of_wrapped {s inner : Signal} (h : s.body = .wrapped inner)
    (hinner : ¬ inner.IsReport) : s.IsFault := by
  rw [isFault_iff]
  rw [isReport_iff, Bool.not_eq_true] at hinner
  simp [isOrdinary, isStop, isReported, h, hinner]

theorem not_isReport_of_wrapped {s inner : Signal} (h : s.body = .wrapped inner) :
    ¬ s.IsReport := by
  rw [isReport_iff]
  simp [isReportedItself, h]

theorem Stops.not_isReport {s : Signal} (h : s.Stops) : ¬ s.IsReport := by
  obtain ⟨message, hbody⟩ := h
  rw [isReport_iff]
  simp [isReportedItself, hbody, SignalKind.isReported]

end Signal

/-- The ways for a run to end that its host settles: neither by a fault nor by an interrupt. -/
inductive Settled : Option Signal → Prop
  | returned : Settled none
  | stopped {s : Signal} (h : s.Stops) : Settled (some s)
  | left {s : Signal} (h : s.Leaves) : Settled (some s)
  | reported {s : Signal} (h : s.SaysReported) : Settled (some s)

theorem Signal.settled_or_isFault_or_interrupts (s : Signal) :
    Settled (some s) ∨ s.IsFault ∨ s.Interrupts := by
  by_cases hleaves : s.Leaves
  · exact .inl (.left hleaves)
  by_cases hinterrupts : s.Interrupts
  · exact .inr (.inr hinterrupts)
  by_cases hstops : s.Stops
  · exact .inl (.stopped hstops)
  by_cases hreported : s.SaysReported
  · exact .inl (.reported hreported)
  exact .inr (.inl ⟨hleaves, hinterrupts, hstops, hreported⟩)

namespace Termination

variable {recorded : Value} {s : Signal}

theorem ofEnding_of_stops (h : s.Stops) :
    ofEnding recorded (some s) = .ok (.stopped recorded) := by
  obtain ⟨message, hbody⟩ := h
  simp [ofEnding, hbody, Signal.isStop]

theorem ofEnding_of_exit {code : Option Value} (h : s.body = .exit code) :
    ofEnding recorded (some s) = .ok (.stopped (leaveCode code)) := by
  simp [ofEnding, h]

theorem ofEnding_of_saysReported (h : s.SaysReported) :
    ofEnding recorded (some s) = .ok .reportedFailure := by
  have hreported := s.saysReported_iff.mp h
  -- A bare report is told from the signal of the exit capability by its kind.
  obtain ⟨kind, message, hbody, hkind⟩ | ⟨inner, hbody, hinner⟩ := h
  · rcases hkind with rfl | rfl <;> simp [ofEnding, hbody, Signal.isStop, hreported]
  · simp [ofEnding, hbody, Signal.isStop, hreported]

theorem ofEnding_of_isFault (h : s.IsFault) : ofEnding recorded (some s) = .error s := by
  obtain ⟨hordinary, hstop, hreported⟩ := s.isFault_iff.mp h
  cases hbody : s.body with
  | plain kind message => simp [ofEnding, hbody, hstop, hreported]
  | exit code => simp [Signal.isOrdinary, hbody] at hordinary
  | wrapped inner => simp [ofEnding, hbody, hstop, hreported]

theorem ofEnding_of_interrupts (h : s.Interrupts) : ofEnding recorded (some s) = .error s := by
  obtain ⟨kind, message, hbody, hkind⟩ := h
  rcases hkind with rfl | rfl <;>
    simp [ofEnding, hbody, Signal.isStop, Signal.isReported, Signal.isReportedItself,
      SignalKind.isReported]

theorem exists_ofEnding_of_settled (recorded : Value) {ending : Option Signal}
    (h : Settled ending) :
    ∃ t, ofEnding recorded ending = .ok t := by
  cases h with
  | returned => exact ⟨_, rfl⟩
  | stopped h => exact ⟨_, ofEnding_of_stops h⟩
  | left h =>
    obtain ⟨code, hbody⟩ := h
    exact ⟨_, ofEnding_of_exit hbody⟩
  | reported h => exact ⟨_, ofEnding_of_saysReported h⟩

/-- A signal goes on to the caller exactly if it is a fault or an interrupt. -/
theorem ofEnding_eq_error_iff {ending : Option Signal} :
    ofEnding recorded ending = .error s ↔ ending = some s ∧ (s.IsFault ∨ s.Interrupts) := by
  constructor
  · intro h
    cases ending with
    | none => simp [ofEnding] at h
    | some e =>
      rcases e.settled_or_isFault_or_interrupts with hsettled | hfault | hinterrupts
      · obtain ⟨t, ht⟩ := exists_ofEnding_of_settled recorded hsettled
        rw [ht] at h
        contradiction
      · rw [ofEnding_of_isFault hfault] at h
        cases h
        exact ⟨rfl, .inl hfault⟩
      · rw [ofEnding_of_interrupts hinterrupts] at h
        cases h
        exact ⟨rfl, .inr hinterrupts⟩
  · rintro ⟨rfl, hfault | hinterrupts⟩
    · exact ofEnding_of_isFault hfault
    · exact ofEnding_of_interrupts hinterrupts

end Termination

end EngineHost
