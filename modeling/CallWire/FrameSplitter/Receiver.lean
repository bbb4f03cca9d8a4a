import CallWire.Arguments
import CallWire.FrameSplitter

/-!
# Receiving a stream

A receiver splits a stream of bytes into frames, decodes the body of each, notes what arguments it
carries for a response, and gives the frame back to the pools. After every piece of the stream it
takes out all frames that have become complete, up to the first fault.

* `next_size`: a splitter that hands out a frame has fewer bytes waiting than before, so taking out
  all frames comes to an end.
-/

namespace CallWire

namespace FrameSplitter

theorem size_eq_length (s : FrameSplitter) : s.size = s.buffered.length :=
  (s.queue.length_toList).symm

/-- A splitter that hands out a frame keeps fewer bytes waiting. -/
theorem next_size {s t : FrameSplitter} {p q : ConnectionPools} {h : Pooled LazyFrame}
    (e : s.next p = (.ok (some h), q, t)) : t.size < s.size := by
  have split_size (n : Nat) :
      ((s.queue.reserve 2).split n).2.size = s.queue.size - n := by
    rw [← ByteQueue.length_toList, (ByteQueue.split_eq _ n).2, ByteQueue.toList_reserve,
      List.length_drop, ByteQueue.length_toList]
  unfold next at e
  simp only at e
  split at e
  · split at e
    · cases e
    · rename_i large
      split at e
      · cases e
      · rename_i complete
        split at e
        · cases e
          simp only [size, ByteQueue.size_reserve, FrameLayout.overhead, split_size] at *
          omega
        · cases e
  · cases e

end FrameSplitter

/-- What a stream of frames has brought so far, what came last always in front. -/
structure Receiver where
  splitter : FrameSplitter
  pools : ConnectionPools
  taken : List LazyFrame
  /-- The chunks of arguments of each call response frame. -/
  batches : List (List Bytes)
  failed : List (Fault FrameError)

namespace Receiver

def empty : Receiver := ⟨.empty, .empty, [], [], []⟩

def frames (r : Receiver) : List LazyFrame := r.taken.reverse

def faults (r : Receiver) : List (Fault FrameError) := r.failed.reverse

/-- The arguments that the response frames have carried. -/
def args (r : Receiver) : List Bytes := reassemble r.batches.reverse

def fail (r : Receiver) (fault : Fault FrameError) : Receiver :=
  { r with failed := fault :: r.failed }

/-- Notes the chunks of a body, if it is one of a call response. -/
def collect (r : Receiver) : HeldBody → Receiver
  | .callResponse response => { r with batches := response.args :: r.batches }
  | .callResponseCont part => { r with batches := part.args :: r.batches }
  | _ => r

/-- Decodes a frame that was split off, and gives it back. -/
def accept (r : Receiver) (h : Pooled LazyFrame) : Receiver :=
  match h.value? with
  | none => r
  | some f =>
      let r := { r with taken := f :: r.taken }
      match r.pools.decodeBody f with
      | (.ok (body, f), pools) =>
          { r with pools := (pools.freeLazyFrame { h with value? := some f }).2 }.collect body
      | (.error fault, pools) => { r with pools := (pools.freeLazyFrame h).2 }.fail fault

theorem collect_splitter (r : Receiver) (body : HeldBody) :
    (r.collect body).splitter = r.splitter := by
  cases body <;> rfl

theorem accept_splitter (r : Receiver) (h : Pooled LazyFrame) :
    (r.accept h).splitter = r.splitter := by
  unfold accept
  split
  · rfl
  · simp only
    split
    · exact collect_splitter _ _
    · rfl

/-- Takes out complete frames until none is left or a fault is met. -/
def takeAll (r : Receiver) : Receiver :=
  match _e : r.splitter.next r.pools with
  | (.ok none, pools, splitter) => { r with splitter, pools }
  | (.error fault, pools, splitter) => { r with splitter, pools }.fail fault
  | (.ok (some h), pools, splitter) => takeAll ({ r with splitter, pools }.accept h)
termination_by r.splitter.size
decreasing_by
  rw [accept_splitter]
  exact FrameSplitter.next_size _e

/-- Receives bytes in pieces of `k`, or one at a time if `k` is zero. -/
def receive (k : Nat) (r : Receiver) (bs : Bytes) : Receiver :=
  match bs with
  | [] => r
  | b :: rest =>
      let r := { r with splitter := r.splitter.feed (b :: rest.take (k - 1)) }
      receive k r.takeAll (rest.drop (k - 1))
termination_by bs.length

end Receiver

end CallWire
