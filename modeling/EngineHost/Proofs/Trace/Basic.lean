import EngineHost.Diagnostic.Sink
import EngineHost.Process

/-!
# Traces

A trace lists what happens in the course of a run, in order. Acts of the run's own engine stand
beside acts of the calls that it makes, of other engines and of the host. What takes place while a
capture made inside the run is held does not reach the run's console.

What is read off a trace: the text that reached the console (`written`), the reports and exit codes
of the run's own engine (`reports`, `codes`), and the targets that the working directory was asked
to change to (`targets`).
-/

namespace EngineHost

/-- One thing that happens in the course of a run. -/
inductive Act where
  /-- An engine wrote to the current stream of one side. -/
  | wrote (channel : Channel) (text : String)
  | logged (record : LogRecord)
  /-- The working directory was asked to change, with success or without. -/
  | sought (target : Value)
  /-- The lock was taken for a call. -/
  | locked
  | emitted (report : Report)
  /-- The exit capability recorded a code. -/
  | recorded (code : Value)
  /-- An engine appended to its argument vector. -/
  | appended (argument : Value)

/-- Where an act takes place, as the run sees it. -/
inductive Place where
  /-- In the run's own engine. -/
  | own
  /-- In a call that the run makes, at the run's console. -/
  | called
  /-- While a capture made inside the run is held. -/
  | captured
deriving DecidableEq, Repr

structure Event where
  place : Place
  act : Act

abbrev Trace := List Event

namespace Act

def own (a : Act) : Event := ⟨.own, a⟩

def called (a : Act) : Event := ⟨.called, a⟩

/-- The text that the act brings to one side of the console it takes place at. A log record counts
if it goes to the console: warnings do, unless all records go to the process's own stream. -/
def textTo (verbose : Bool) (channel : Channel) : Act → String
  | wrote side s => if side = channel then s else ""
  | logged r =>
    if verbose = false ∧ r.level = .warning ∧ channel = .err then r.message ++ "\n" else ""
  | _ => ""

/-- The text that the act adds to a stream. `here` are the streams of the console it takes place at;
none, if the act takes place at a console whose streams are not followed. -/
def textOn (verbose : Bool) (here : Option StreamPair) (stream : Stream) : Act → String
  | wrote side s => if here.map (·.get side) = some stream then s else ""
  | logged r =>
    if verbose then if stream = ⟨.ambient, .err⟩ then r.line else ""
    else if r.level = .warning ∧ here.map (·.get .err) = some stream then r.message ++ "\n"
    else ""
  | _ => ""

def isRecord : Act → Bool
  | logged _ => true
  | _ => false

def report? : Act → Option Report
  | emitted r => some r
  | _ => none

def code? : Act → Option Value
  | recorded code => some code
  | _ => none

def argument? : Act → Option Value
  | appended argument => some argument
  | _ => none

def target? : Act → Option Value
  | sought target => some target
  | _ => none

def locks : Act → Bool
  | locked => true
  | _ => false

end Act

namespace Event

def nest (e : Event) : Event :=
  match e.place with
  -- The run's own engine is that of a call to its caller.
  | .own => { e with place := .called }
  | _ => e

def capture (e : Event) : Event := { e with place := .captured }

def own? (e : Event) : Option Act := if e.place = .own then some e.act else none

def visible? (e : Event) : Option Act := if e.place = .captured then none else some e.act

/-- The text that the event adds to a stream when `here` are the streams of the run's console. -/
def textOn (verbose : Bool) (here : StreamPair) (stream : Stream) (e : Event) : String :=
  e.act.textOn verbose (if e.place = .captured then none else some here) stream

end Event

namespace Trace

/-- The trace of a run as its caller sees it. -/
def nest (es : Trace) : Trace := es.map Event.nest

/-- The trace of a run under a capture, as one outside the capture sees it. -/
def capture (es : Trace) : Trace := es.map Event.capture

def acts (es : Trace) : List Act := es.map (·.act)

def own (es : Trace) : List Act := es.filterMap Event.own?

def visible (es : Trace) : List Act := es.filterMap Event.visible?

/-- What the run's console received on one side, while no capture made inside was held. -/
def written (verbose : Bool) (channel : Channel) (es : Trace) : String :=
  String.join (es.visible.map (·.textTo verbose channel))

def textOn (verbose : Bool) (here : StreamPair) (stream : Stream) (es : Trace) : String :=
  String.join (es.map (·.textOn verbose here stream))

def records (es : Trace) : Trace := es.filter (·.act.isRecord)

def reports (es : Trace) : List Report := es.own.filterMap Act.report?

def codes (es : Trace) : List Value := es.own.filterMap Act.code?

/-- The last of these codes, or the one recorded before. -/
def lastCode (recorded : Value) (es : Trace) : Value := es.codes.getLast?.getD recorded

def arguments (es : Trace) : List Value := es.own.filterMap Act.argument?

-- By whomever the working directory was asked to change.
def targets (es : Trace) : List Value := es.acts.filterMap Act.target?

def locks (es : Trace) : Bool := es.acts.any Act.locks

variable (verbose : Bool) (channel : Channel) (here : StreamPair) (stream : Stream)

/-! ## Traces in pieces -/

@[simp] theorem acts_append (es fs : Trace) : acts (es ++ fs) = acts es ++ acts fs :=
  List.map_append

@[simp] theorem own_append (es fs : Trace) : own (es ++ fs) = own es ++ own fs :=
  List.filterMap_append

@[simp] theorem visible_append (es fs : Trace) : visible (es ++ fs) = visible es ++ visible fs :=
  List.filterMap_append

@[simp] theorem textOn_nil : textOn verbose here stream [] = "" := by simp [textOn]

@[simp] theorem textOn_singleton (e : Event) :
    textOn verbose here stream [e] = e.textOn verbose here stream := by simp [textOn]

@[simp] theorem textOn_append (es fs : Trace) :
    textOn verbose here stream (es ++ fs) =
      textOn verbose here stream es ++ textOn verbose here stream fs := by
  rw [textOn, List.map_append, String.join_append, textOn, textOn]

theorem written_append (es fs : Trace) :
    written verbose channel (es ++ fs) =
      written verbose channel es ++ written verbose channel fs := by
  rw [written, visible_append, List.map_append, String.join_append, written, written]

-- An act that brings no text to the console may be left out.
theorem written_cons_of_silent {e : Event} (h : e.act.textTo verbose channel = "") (es : Trace) :
    written verbose channel (e :: es) = written verbose channel es := by
  have hcons : e :: es = [e] ++ es := rfl
  rw [hcons, written_append]
  by_cases hp : e.place = .captured
  · simp [written, visible, Event.visible?, hp]
  · simp [written, visible, Event.visible?, hp, h]

@[simp] theorem reports_append (es fs : Trace) : reports (es ++ fs) = reports es ++ reports fs := by
  rw [reports, own_append, List.filterMap_append, reports, reports]

theorem codes_append (es fs : Trace) : codes (es ++ fs) = codes es ++ codes fs := by
  rw [codes, own_append, List.filterMap_append, codes, codes]

@[simp] theorem arguments_append (es fs : Trace) :
    arguments (es ++ fs) = arguments es ++ arguments fs := by
  rw [arguments, own_append, List.filterMap_append, arguments, arguments]

@[simp] theorem targets_append (es fs : Trace) : targets (es ++ fs) = targets es ++ targets fs := by
  rw [targets, acts_append, List.filterMap_append, targets, targets]

@[simp] theorem locks_append (es fs : Trace) : locks (es ++ fs) = (locks es || locks fs) := by
  rw [locks, acts_append, List.any_append, locks, locks]

/-- What was asked for last stands. -/
@[simp] theorem lastCode_append (recorded : Value) (es fs : Trace) :
    lastCode recorded (es ++ fs) = lastCode (lastCode recorded es) fs := by
  simp only [lastCode, codes_append, List.getLast?_append]
  cases (codes fs).getLast? with
  | none => rfl
  | some code => rfl

/-! ## The trace of a call, as its caller sees it -/

@[simp] theorem acts_nest (es : Trace) : acts (nest es) = acts es := by
  have h : ∀ e : Event, e.nest.act = e.act := by
    rintro ⟨place, act⟩
    cases place <;> rfl
  simp [acts, nest, h]

@[simp] theorem own_nest (es : Trace) : own (nest es) = [] := by
  have h : ∀ e : Event, e.nest.own? = none := by
    rintro ⟨place, act⟩
    cases place <;> rfl
  simp [own, nest, h]

@[simp] theorem visible_nest (es : Trace) : visible (nest es) = visible es := by
  have h : Event.visible? ∘ Event.nest = Event.visible? := by
    funext ⟨place, act⟩
    cases place <;> rfl
  rw [visible, nest, List.filterMap_map, h, visible]

@[simp] theorem written_nest (es : Trace) :
    written verbose channel (nest es) = written verbose channel es := by
  rw [written, visible_nest, written]

@[simp] theorem textOn_nest (es : Trace) :
    textOn verbose here stream (nest es) = textOn verbose here stream es := by
  have h : ∀ e : Event, e.nest.textOn verbose here stream = e.textOn verbose here stream := by
    rintro ⟨place, act⟩
    cases place <;> rfl
  simp [textOn, nest, Function.comp_def, h]

@[simp] theorem acts_capture (es : Trace) : acts (capture es) = acts es := by
  simp [acts, capture, Event.capture]

@[simp] theorem own_capture (es : Trace) : own (capture es) = [] := by
  simp [own, capture, Event.capture, Event.own?]

/-- Under a capture only the streams of the capture see more than they would from elsewhere. -/
theorem textOn_capture {inside : StreamPair} (es : Trace)
    (h : ∀ channel, inside.get channel ≠ stream) :
    textOn verbose here stream (capture es) = textOn verbose inside stream es := by
  -- The streams of the capture are other streams, and so are as good as none.
  have hact : ∀ a : Act,
      a.textOn verbose none stream = a.textOn verbose (some inside) stream := by
    intro a
    cases a <;> simp [Act.textOn, h]
  have he : ∀ e : Event, e.capture.textOn verbose here stream = e.textOn verbose inside stream := by
    intro e
    by_cases hp : e.place = .captured
    · simp [Event.textOn, Event.capture, hp]
    · simp [Event.textOn, Event.capture, hp, hact]
  simp [textOn, capture, Function.comp_def, he]

section

variable {es fs : Trace}

theorem reports_of_own_eq_nil (h : es.own = []) : es.reports = [] := by rw [reports, h]; rfl

theorem lastCode_of_own_eq_nil (h : es.own = []) (recorded : Value) :
    es.lastCode recorded = recorded := by rw [lastCode, codes, h]; rfl

theorem arguments_of_own_eq_nil (h : es.own = []) : es.arguments = [] := by rw [arguments, h]; rfl

theorem targets_congr (h : es.acts = fs.acts) : es.targets = fs.targets := by
  rw [targets, h, targets]

theorem locks_congr (h : es.acts = fs.acts) : es.locks = fs.locks := by rw [locks, h, locks]

end

/-! ## Text at the console of the run -/

/-- A stream of the console receives what is written at the console, unless it is the one that all log
records go to. -/
theorem textOn_eq_written {stream : Stream} (hlog : verbose = true → stream ≠ ⟨.ambient, .err⟩)
    (es : Trace) :
    textOn verbose (.of stream.owner) stream es = written verbose stream.channel es := by
  obtain ⟨owner, channel⟩ := stream
  have hact : ∀ a : Act, a.textOn verbose (some (.of owner)) ⟨owner, channel⟩ =
      a.textTo verbose channel := by
    intro a
    cases a with
    | wrote side s =>
      cases side <;> cases channel <;> simp [Act.textOn, Act.textTo, StreamPair.of, StreamPair.get]
    | logged r =>
      cases verbose with
      | true => simp [Act.textOn, Act.textTo, hlog rfl]
      | false => cases channel <;> simp [Act.textOn, Act.textTo, StreamPair.of, StreamPair.get]
    | _ => rfl
  -- Under a capture only the stream of the log can be reached.
  have hnone : ∀ a : Act, a.textOn verbose none ⟨owner, channel⟩ = "" := by
    intro a
    cases a with
    | logged r =>
      cases verbose with
      | true => simp [Act.textOn, hlog rfl]
      | false => simp [Act.textOn]
    | _ => simp [Act.textOn]
  induction es with
  | nil => simp [written, visible]
  | cons e es ih =>
    have hcons : ∀ e : Event, ∀ es : Trace, e :: es = [e] ++ es := fun _ _ => rfl
    rw [hcons, textOn_append, written_append, ih, textOn_singleton]
    congr 1
    by_cases hp : e.place = .captured
    · simp [Event.textOn, written, visible, Event.visible?, hp, hnone]
    · simp [Event.textOn, written, visible, Event.visible?, hp, hact]

end Trace

end EngineHost
