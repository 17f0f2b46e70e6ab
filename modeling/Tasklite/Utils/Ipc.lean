import Tasklite.Library.Machine

/-! The receiving end of a worker's pipe. One reader thread moves complete frames from
the wire into a bounded queue, the scheduler's thread takes them out. Every action
below is one visible step of one thread; a run is any list of actions, and an action
that is not enabled leaves the pipe as it is. The receiver is not closed and no drain
runs into its timeout. -/

namespace Tasklite.Utils.Ipc
open Tasklite.Library

/-- What the bounded queue holds. -/
inductive Item (α : Type*) where
  | frame (raw : α)
  | pipeEof
deriving DecidableEq

/-- Where the reader thread is: polling the connection, blocked in `put` with a frame, blocked in
`put` with the end marker, past a `Full` with the end marker in hand, or gone. -/
inductive Reader (α : Type*) where
  | polling
  | delivering (raw : α)
  | puttingEof
  | evicting
  | exited
deriving DecidableEq

/-- The call that drives the `get_nowait` loop of `take_raw`. -/
inductive Call where
  | takeRaw
  | takeMessages
  | drain
  | lastDrain
deriving DecidableEq

/-- Where the scheduler's thread is. `testing` and `getting` are inside `drain_to_eof`; it has
finished once a drain has seen the end and returned. -/
inductive Consumer where
  | idle
  | taking (call : Call)
  | testing
  | getting
  | finished
deriving DecidableEq

/-- What the consumer is handed: raw frames or decoded messages. -/
inductive Delivery (α β : Type*) where
  | raw (frame : α)
  | message (content : β)
deriving DecidableEq

/-- The pipe, with three histories: the frames written, those taken out by the consumer and those
taken out by the reader itself. -/
structure Pipe (α β : Type*) where
  wire : List α
  writerClosed : Bool
  reader : Reader α
  queue : List (Item α)
  eof : Bool
  consumer : Consumer
  received : List (Delivery α β)
  sent : List α
  taken : List α
  evicted : List α
deriving DecidableEq

/-- The pipe when the worker starts. -/
def Pipe.start {α β : Type*} : Pipe α β :=
  ⟨[], false, .polling, [], false, .idle, [], [], [], []⟩

inductive Action (α : Type*) where
  | write (raw : α)
  | closeWriter
  | recvBytes
  | recvEof
  | put
  | putTimeout
  | putEof
  | putEofFull
  | evict
  | takeRaw
  | takeMessages
  | drainToEof
  | getNowait
  | testEof
  | get
  | getTimeout
deriving DecidableEq

section Step

variable {α β : Type*} (capacity : ℕ) (decode : α → β)

/-- `take_raw` hands frames out as they are; the other calls decode them, a frame that does not
decode counting as the exception it raised. -/
def Call.deliver : Call → α → Delivery α β
  | .takeRaw, frame => .raw frame
  | _, frame => .message (decode frame)

/-- Where the consumer goes when its `get_nowait` loop ends. -/
def Call.next : Call → Consumer
  | .takeRaw | .takeMessages => .idle
  | .drain => .testing
  | .lastDrain => .finished

/-- One round of the `get_nowait` loop. -/
def getNowait (pipe : Pipe α β) (call : Call) : Pipe α β :=
  match pipe.queue with
  | [] => { pipe with consumer := call.next }
  | .pipeEof :: rest => { pipe with queue := rest, eof := true, consumer := call.next }
  | .frame raw :: rest => { pipe with
      queue := rest
      received := pipe.received ++ [call.deliver decode raw]
      taken := pipe.taken ++ [raw] }

/-- The blocking `get` of `drain_to_eof` when an item arrives in time. -/
def getItem (pipe : Pipe α β) : Pipe α β :=
  match pipe.queue with
  | [] => pipe
  | .pipeEof :: rest => { pipe with queue := rest, eof := true, consumer := .taking .lastDrain }
  | .frame raw :: rest => { pipe with
      queue := rest
      received := pipe.received ++ [.message (decode raw)]
      taken := pipe.taken ++ [raw]
      consumer := .taking .drain }

/-- The `get_nowait` that makes room for the end marker: whatever is oldest goes. -/
def evictOldest (pipe : Pipe α β) : Pipe α β :=
  match pipe.queue with
  | [] => { pipe with reader := .puttingEof }
  | .pipeEof :: rest => { pipe with queue := rest, reader := .puttingEof }
  | .frame raw :: rest => { pipe with
      queue := rest, reader := .puttingEof, evicted := pipe.evicted ++ [raw] }

def step (pipe : Pipe α β) : Action α → Pipe α β
  | .write raw =>
      if pipe.writerClosed then pipe
      else { pipe with wire := pipe.wire ++ [raw], sent := pipe.sent ++ [raw] }
  | .closeWriter => { pipe with writerClosed := true }
  | .recvBytes =>
      match pipe.reader, pipe.wire with
      | .polling, raw :: rest => { pipe with wire := rest, reader := .delivering raw }
      | _, _ => pipe
  | .recvEof =>
      match pipe.reader, pipe.wire, pipe.writerClosed with
      | .polling, [], true => { pipe with reader := .puttingEof, eof := true }
      | _, _, _ => pipe
  | .put =>
      match pipe.reader with
      | .delivering raw =>
          if pipe.queue.length < capacity then
            { pipe with queue := pipe.queue ++ [.frame raw], reader := .polling }
          else pipe
      | _ => pipe
  | .putTimeout => pipe
  | .putEof =>
      match pipe.reader with
      | .puttingEof =>
          if pipe.queue.length < capacity then
            { pipe with queue := pipe.queue ++ [.pipeEof], reader := .exited }
          else pipe
      | _ => pipe
  | .putEofFull =>
      match pipe.reader with
      | .puttingEof => if pipe.queue.length < capacity then pipe else { pipe with reader := .evicting }
      | _ => pipe
  | .evict =>
      match pipe.reader with
      | .evicting => evictOldest pipe
      | _ => pipe
  | .takeRaw => if pipe.consumer = .idle then { pipe with consumer := .taking .takeRaw } else pipe
  | .takeMessages =>
      if pipe.consumer = .idle then { pipe with consumer := .taking .takeMessages } else pipe
  | .drainToEof => if pipe.consumer = .idle then { pipe with consumer := .taking .drain } else pipe
  | .getNowait =>
      match pipe.consumer with
      | .taking call => getNowait decode pipe call
      | _ => pipe
  | .testEof =>
      if pipe.consumer = .testing then
        { pipe with consumer := if pipe.eof then .taking .lastDrain else .getting }
      else pipe
  | .get => if pipe.consumer = .getting then getItem decode pipe else pipe
  | .getTimeout =>
      if pipe.consumer = .getting ∧ pipe.queue.isEmpty then { pipe with consumer := .taking .drain }
      else pipe

end Step

end Tasklite.Utils.Ipc
