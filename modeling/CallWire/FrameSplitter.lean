import CallWire.Bytes.Queue
import CallWire.LazyFrame.Reading

/-!
# Splitting a byte stream into frames

A splitter keeps what has arrived and hands out one lazy frame after another, each as soon as all of
it is there. A size field that is too small stops it: nothing is taken out, and the same error is
reported from then on. A frame of unknown type is taken out and reported once.
-/

namespace CallWire

structure FrameSplitter where
  queue : ByteQueue

namespace FrameSplitter

def empty : FrameSplitter := ⟨.empty⟩

def buffered (s : FrameSplitter) : Bytes := s.queue.toList

def size (s : FrameSplitter) : Nat := s.queue.size

def isEmpty (s : FrameSplitter) : Bool := s.size == 0

def feed (s : FrameSplitter) (bs : Bytes) : FrameSplitter := ⟨s.queue.push bs⟩

def clear (_ : FrameSplitter) : FrameSplitter := empty

/-- The next frame, or nothing if more bytes have to arrive first. -/
def next (s : FrameSplitter) (p : ConnectionPools) :
    Outcome (Option (Pooled LazyFrame)) × ConnectionPools × FrameSplitter :=
  let s : FrameSplitter := ⟨s.queue.reserve 2⟩
  match s.queue.front with
  | hi :: lo :: _ =>
      let size := Bytes.ofBigEndian [hi, lo]
      if size < FrameLayout.overhead then
        (refuse (.invalidFrameSize (UInt16.ofNat size)), p, s)
      else if s.size < size then (.ok none, p, s)
      else
        let (bytes, queue) := s.queue.split size
        match p.readLazyFrame bytes 0 with
        | (.ok (_, h), p) => (.ok (some h), p, ⟨queue⟩)
        | (.error fault, p) => (.error fault, p, ⟨queue⟩)
  | _ => (.ok none, p, s)

end FrameSplitter

end CallWire
