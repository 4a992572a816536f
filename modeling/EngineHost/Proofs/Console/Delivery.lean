import EngineHost.Console.Basic

/-!
# Deliveries

A delivery is a text with the stream that it is written to. What steps with a console do to the texts
of its streams is a list of deliveries in the order of the writes; every stream receives the texts
delivered to it, one after another, and a delivery is to one stream only.

Main facts: `text_deliver`, `release_deliver`, `deliver_append`.
-/

namespace EngineHost

structure Delivery where
  stream : Stream
  text : String
deriving DecidableEq, Repr

namespace Delivery

/-- All that is delivered to a stream, in order. -/
def received (stream : Stream) (ds : List Delivery) : String :=
  String.join ((ds.filter fun d => d.stream = stream).map (·.text))

@[simp] theorem received_nil (stream : Stream) : received stream [] = "" := String.join_nil

@[simp] theorem received_append (stream : Stream) (ds es : List Delivery) :
    received stream (ds ++ es) = received stream ds ++ received stream es := by
  rw [received, List.filter_append, List.map_append, String.join_append, received, received]

theorem received_singleton (stream : Stream) (d : Delivery) :
    received stream [d] = if d.stream = stream then d.text else "" := by
  unfold received
  split
  next h => simp [h]
  next h => simp [h]

theorem received_eq_empty {stream : Stream} {ds : List Delivery}
    (h : ∀ d ∈ ds, d.stream ≠ stream) : received stream ds = "" := by
  have hnone : (ds.filter fun d => d.stream = stream) = [] := by
    rw [List.filter_eq_nil_iff]
    intro d hd
    rw [decide_eq_true_eq]
    exact h d hd
  rw [received, hnone, List.map_nil, String.join_nil]

end Delivery

namespace Console

def deliver (c : Console) (ds : List Delivery) : Console :=
  ds.foldl (fun c d => c.append d.stream d.text) c

variable (c : Console) (ds es : List Delivery)

@[simp] theorem deliver_nil : c.deliver [] = c := rfl

theorem deliver_cons (d : Delivery) : c.deliver (d :: ds) = (c.append d.stream d.text).deliver ds :=
  rfl

theorem deliver_append : c.deliver (ds ++ es) = (c.deliver ds).deliver es := List.foldl_append

@[simp] theorem current_deliver : (c.deliver ds).current = c.current := by
  induction ds generalizing c with
  | nil => rfl
  | cons d ds ih => rw [deliver_cons, ih, append]

@[simp] theorem saved_deliver : (c.deliver ds).saved = c.saved := by
  induction ds generalizing c with
  | nil => rfl
  | cons d ds ih => rw [deliver_cons, ih, append]

theorem text_deliver (stream : Stream) :
    (c.deliver ds).text stream = c.text stream ++ Delivery.received stream ds := by
  induction ds generalizing c with
  | nil => rw [deliver_nil, Delivery.received_nil, String.append_empty]
  | cons d ds ih =>
    have hcons : d :: ds = [d] ++ ds := rfl
    rw [deliver_cons, ih, hcons, Delivery.received_append, Delivery.received_singleton, text_append,
      ← String.append_assoc]
    by_cases h : stream = d.stream
    · rw [if_pos h, if_pos h.symm, h]
    · rw [if_neg h, if_neg (Ne.symm h), String.append_empty]

-- What a capture puts back does not depend on any text.
theorem release_append (stream : Stream) (s : String) (id : Nat) :
    (c.append stream s).release id = (c.release id).append stream s := by
  have hsaved : (c.append stream s).saved = c.saved := rfl
  unfold release
  rw [hsaved]
  cases c.saved id with
  | none => rfl
  | some pair => rfl

theorem release_deliver (id : Nat) : (c.deliver ds).release id = (c.release id).deliver ds := by
  induction ds generalizing c with
  | nil => rfl
  | cons d ds ih => rw [deliver_cons, ih, release_append, deliver_cons]

end Console

end EngineHost
