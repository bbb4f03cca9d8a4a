import CallWire.Bytes

/-!
# The arguments of a call

The first chunk of a batch goes on with the argument that the previous batch left open, and every
further chunk opens the next argument.
-/

namespace CallWire

inductive ArgIndex where
  | arg1
  | arg2
  | arg3
  deriving DecidableEq, Repr

namespace ArgIndex

def all : List ArgIndex := [arg1, arg2, arg3]

def position : ArgIndex → Nat
  | arg1 => 0
  | arg2 => 1
  | arg3 => 2

def name : ArgIndex → String
  | arg1 => "arg1"
  | arg2 => "arg2"
  | arg3 => "arg3"

end ArgIndex

def extendLast (bs : Bytes) : List Bytes → List Bytes
  | [] => []
  | [last] => [last ++ bs]
  | first :: rest => first :: extendLast bs rest

/-- Puts a batch of chunks in front of the arguments that the later batches carry. -/
def joinBatch : List Bytes → List Bytes → List Bytes
  | [], args => args
  | [chunk], [] => [chunk]
  | [chunk], arg :: args => (chunk ++ arg) :: args
  | chunk :: rest, args => chunk :: joinBatch rest args

def reassemble (batches : List (List Bytes)) : List Bytes := batches.foldr joinBatch [[]]

end CallWire
