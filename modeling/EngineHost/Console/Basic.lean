import EngineHost.Text.Lines

/-!
# The console

A process has two current streams, one for output and one for errors. A capture redirects them to
buffers of its own for as long as it is held, and puts back what it found when it is released. The
same capture may be held again later: its buffers keep their text. Captures need not be released in
the reverse order in which they were acquired.

Main facts: `text_write` (a write reaches the stream it is written to and no other),
`acquire_eq_error_iff` (acquiring fails exactly when the capture is held), `release_of_not_held`.
-/

namespace EngineHost

inductive Channel where
  | out
  | err
deriving DecidableEq, Repr, Inhabited

/-- Whose streams they are: the process's own, or those of a numbered capture. -/
inductive Owner where
  | ambient
  | capture (id : Nat)
deriving DecidableEq, Repr, Inhabited

structure Stream where
  owner : Owner
  channel : Channel
deriving DecidableEq, Repr, Inhabited

structure StreamPair where
  out : Stream
  err : Stream
deriving DecidableEq, Repr, Inhabited

namespace StreamPair

def of (owner : Owner) : StreamPair := ⟨⟨owner, .out⟩, ⟨owner, .err⟩⟩

def get (p : StreamPair) : Channel → Stream
  | .out => p.out
  | .err => p.err

end StreamPair

/-- The streams of a process: the current pair, the pair that each held capture will put back, and
what has been written to every stream. -/
structure Console where
  current : StreamPair
  saved : Nat → Option StreamPair
  text : Stream → String

namespace Console

/-- The console of a process in which nothing has been written and no capture is held. -/
def fresh : Console :=
  { current := StreamPair.of .ambient, saved := fun _ => none, text := fun _ => "" }

instance : Inhabited Console := ⟨fresh⟩

def append (c : Console) (stream : Stream) (s : String) : Console :=
  let extended := c.text stream ++ s
  { c with text := fun other => if other = stream then extended else c.text other }

def write (c : Console) (channel : Channel) (s : String) : Console :=
  c.append (c.current.get channel) s

def holds (c : Console) (id : Nat) : Bool := (c.saved id).isSome

def redirect (c : Console) (id : Nat) : Console :=
  { c with
    current := StreamPair.of (.capture id)
    saved := fun other => if other = id then some c.current else c.saved other }

inductive AcquireError where
  | alreadyHeld
deriving DecidableEq, Repr

namespace AcquireError

def message : AcquireError → String
  | alreadyHeld => "console capture already acquired"

end AcquireError

def acquire (c : Console) (id : Nat) : Except AcquireError Console :=
  if c.holds id then .error .alreadyHeld else .ok (c.redirect id)

/-- Let go of a capture and put back the streams it found; nothing happens if it is not held. -/
def release (c : Console) (id : Nat) : Console :=
  match c.saved id with
  | none => c
  | some pair =>
    { c with
      current := pair
      saved := fun other => if other = id then none else c.saved other }

/-- A new capture under a number: not held, and with empty buffers. -/
def renew (c : Console) (id : Nat) : Console :=
  { c with
    saved := fun other => if other = id then none else c.saved other
    text := fun stream => if stream.owner = .capture id then "" else c.text stream }

def begin (c : Console) (id : Nat) : Console := (c.renew id).redirect id

def captured (c : Console) (id : Nat) (channel : Channel) : String :=
  c.text ⟨.capture id, channel⟩

/-- The lines that a capture has taken in on one side. -/
def capturedLines (c : Console) (id : Nat) (channel : Channel) : List String :=
  Text.splitLines (c.captured id channel)

/-- What reached the process's own stream of one side. -/
def ambient (c : Console) (channel : Channel) : String := c.text ⟨.ambient, channel⟩

theorem text_append (c : Console) (stream other : Stream) (s : String) :
    (c.append stream s).text other =
      if other = stream then c.text stream ++ s else c.text other := rfl

/-- A write reaches the current stream of its side and no other. -/
theorem text_write (c : Console) (channel : Channel) (s : String) (other : Stream) :
    (c.write channel s).text other =
      if other = c.current.get channel then c.text other ++ s else c.text other := by
  rw [write, text_append]
  split
  next h => rw [h]
  next => rfl

@[simp] theorem current_write (c : Console) (channel : Channel) (s : String) :
    (c.write channel s).current = c.current := rfl

@[simp] theorem saved_write (c : Console) (channel : Channel) (s : String) :
    (c.write channel s).saved = c.saved := rfl

@[simp] theorem text_redirect (c : Console) (id : Nat) : (c.redirect id).text = c.text := rfl

@[simp] theorem text_release (c : Console) (id : Nat) : (c.release id).text = c.text := by
  unfold release
  cases c.saved id with
  | none => rfl
  | some pair => rfl

theorem acquire_eq_error_iff (c : Console) (id : Nat) :
    c.acquire id = .error .alreadyHeld ↔ c.holds id = true := by
  unfold acquire
  split <;> simp_all

theorem acquire_of_not_held (c : Console) {id : Nat} (h : c.holds id = false) :
    c.acquire id = .ok (c.redirect id) := by
  rw [acquire, h]
  rfl

theorem release_of_not_held (c : Console) {id : Nat} (h : c.holds id = false) :
    c.release id = c := by
  unfold holds at h
  unfold release
  cases hs : c.saved id with
  | none => rfl
  | some pair => simp [hs] at h

/-- Releasing what was just acquired restores the streams. -/
theorem release_redirect (c : Console) {id : Nat} (h : c.holds id = false) :
    (c.redirect id).release id = c := by
  have hs : c.saved id = none := by simpa [holds] using h
  have : (fun other => if other = id then none else
      if other = id then some c.current else c.saved other) = c.saved := by
    funext other
    by_cases ho : other = id <;> simp [ho, hs]
  simp [release, redirect, this]

end Console

end EngineHost
