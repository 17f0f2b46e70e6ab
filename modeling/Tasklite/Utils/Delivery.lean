import Mathlib.Data.List.Forall2
import Tasklite.Utils.Ipc

/-! What the consumer of a worker's pipe has received once a drain has seen the end. -/

namespace Tasklite.Utils.Delivery
open Tasklite.Library Tasklite.Utils.Ipc

variable {α β : Type*}

/-- The frame an item carries. -/
def frameOf : Item α → Option α
  | .frame raw => some raw
  | .pipeEof => none

@[simp] theorem filterMap_frame (raw : α) (rest : List (Item α)) :
    (Item.frame raw :: rest).filterMap frameOf = raw :: rest.filterMap frameOf := rfl

@[simp] theorem filterMap_pipeEof (rest : List (Item α)) :
    (Item.pipeEof :: rest).filterMap frameOf = rest.filterMap frameOf := rfl

/-- The frame the reader thread holds between the wire and the queue. -/
def held : Reader α → List α
  | .delivering raw => [raw]
  | _ => []

/-- Frames that are queued, in order. -/
def queued (pipe : Pipe α β) : List α := pipe.queue.filterMap frameOf

/-- Frames on their way to the consumer, oldest first. -/
def pending (pipe : Pipe α β) : List α := queued pipe ++ held pipe.reader ++ pipe.wire

/-- The reader has left its loop. -/
def Reader.ended : Reader α → Bool
  | .polling | .delivering _ => false
  | _ => true

theorem held_of_ended {reader : Reader α} (ended : Reader.ended reader = true) : held reader = [] := by
  cases reader with
  | polling | delivering raw => cases ended
  | puttingEof | evicting | exited => rfl

/-- A consumer in its last pass, or done with it, has seen the end of the pipe. -/
def Consumer.seesEnd : Consumer → Bool
  | .taking .lastDrain | .finished => true
  | _ => false

/-- One delivery stands for one frame, raw or decoded. -/
def Delivers (decode : α → β) (delivery : Delivery α β) (frame : α) : Prop :=
  delivery = .raw frame ∨ delivery = .message (decode frame)

/-- The reader evicts nothing: where it makes room for the end marker, the queue is already empty. -/
def EvictsNothing (pipe : Pipe α β) (action : Action α) : Prop :=
  action = .evict → pipe.reader = .evicting → pipe.queue = []

/-- The threads' shared invariant. -/
structure Sound (decode : α → β) (pipe : Pipe α β) : Prop where
  delivered : List.Forall₂ (Delivers decode) pipe.received pipe.taken
  counted : pipe.taken.length + (pending pipe).length + pipe.evicted.length = pipe.sent.length
  ordered : pipe.evicted = [] → pipe.taken ++ pending pipe = pipe.sent
  ended : pipe.eof = Reader.ended pipe.reader
  drained : pipe.eof = true → pipe.writerClosed = true ∧ pipe.wire = []
  marked : Item.pipeEof ∈ pipe.queue → pipe.reader = .exited ∧ ∃ frames : List α,
    pipe.queue = frames.map Item.frame ++ [.pipeEof]
  seen : Consumer.seesEnd pipe.consumer = true → pipe.eof = true
  emptied : pipe.consumer = .finished → queued pipe = []

theorem sound_start (decode : α → β) : Sound decode (Pipe.start : Pipe α β) := by
  constructor <;> simp [Pipe.start, pending, queued, held, Reader.ended, Consumer.seesEnd]

/-- A queue without the end marker is made of frames. -/
theorem queue_eq_frames {queue : List (Item α)} (unmarked : Item.pipeEof ∉ queue) :
    queue = (queue.filterMap frameOf).map Item.frame := by
  induction queue with
  | nil => rfl
  | cons item rest ih =>
    cases item with
    | pipeEof => simp at unmarked
    | frame raw => simpa [frameOf] using ih (fun member => unmarked (List.mem_cons_of_mem _ member))

section Steps

variable {decode : α → β} {pipe : Pipe α β}

theorem sound_write (sound : Sound decode pipe) (raw : α) (opened : pipe.writerClosed = false) :
    Sound decode { pipe with wire := pipe.wire ++ [raw], sent := pipe.sent ++ [raw] } where
  delivered := sound.delivered
  counted := by
    have counted := sound.counted
    simp only [pending, queued, List.length_append, List.length_singleton] at counted ⊢
    omega
  ordered := fun none => by
    have ordered := sound.ordered none
    simp only [pending, queued, ← List.append_assoc] at ordered ⊢
    rw [ordered]
  ended := sound.ended
  drained := fun ended => absurd (sound.drained ended).1 (by simp [opened])
  marked := sound.marked
  seen := sound.seen
  emptied := sound.emptied

/-- Only the consumer moves, and it is not done. -/
theorem sound_consumer (sound : Sound decode pipe) {consumer : Consumer}
    (seen : Consumer.seesEnd consumer = true → pipe.eof = true) (working : consumer ≠ .finished) :
    Sound decode { pipe with consumer := consumer } :=
  { sound with seen := seen, emptied := fun done => absurd done working }

/-- The consumer takes the oldest frame. -/
theorem sound_take (sound : Sound decode pipe) {raw : α} {rest : List (Item α)}
    (front : pipe.queue = .frame raw :: rest) {delivery : Delivery α β}
    (delivers : Delivers decode delivery raw) {consumer : Consumer}
    (seen : Consumer.seesEnd consumer = true → pipe.eof = true) (working : consumer ≠ .finished) :
    Sound decode { pipe with
      queue := rest
      received := pipe.received ++ [delivery]
      taken := pipe.taken ++ [raw]
      consumer := consumer } where
  delivered := List.rel_append sound.delivered (.cons delivers .nil)
  counted := by
    have counted := sound.counted
    simp only [pending, queued, front, filterMap_frame, List.length_append,
      List.length_cons, List.length_nil] at counted ⊢
    omega
  ordered := fun none => by
    have ordered := sound.ordered none
    simpa [pending, queued, front] using ordered
  ended := sound.ended
  drained := sound.drained
  marked := fun member => by
    obtain ⟨exited, frames, same⟩ := sound.marked (by simp [front, member])
    refine ⟨exited, frames.tail, ?_⟩
    rw [front] at same
    cases frames with
    | nil => simp at same
    | cons first later => simpa using (List.cons.inj same).2
  seen := seen
  emptied := fun done => absurd done working

/-- The consumer takes the end marker, behind which nothing is queued. -/
theorem sound_takeEof (sound : Sound decode pipe) {rest : List (Item α)}
    (front : pipe.queue = .pipeEof :: rest) (consumer : Consumer) :
    Sound decode { pipe with queue := rest, eof := true, consumer := consumer } := by
  obtain ⟨exited, frames, same⟩ := sound.marked (by simp [front])
  have alone : rest = [] := by
    rw [front] at same
    cases frames with
    | nil => simpa using same
    | cons first later => simp at same
  have ended : pipe.eof = true := by rw [sound.ended, exited]; rfl
  subst alone
  exact {
    delivered := sound.delivered
    counted := by simpa [pending, queued, front] using sound.counted
    ordered := fun none => by simpa [pending, queued, front] using sound.ordered none
    ended := by simp [exited, Reader.ended]
    drained := fun _ => sound.drained ended
    marked := by simp
    seen := fun _ => rfl
    emptied := fun _ => rfl }

theorem sound_getNowait (sound : Sound decode pipe) {call : Call} (taking : pipe.consumer = .taking call) :
    Sound decode (getNowait decode pipe call) := by
  have seen := sound.seen
  rw [taking] at seen
  unfold getNowait
  split
  · rename_i empty
    cases call with
    | lastDrain => exact { sound with
        seen := fun _ => seen rfl
        emptied := fun _ => by simp [queued, empty] }
    | takeRaw | takeMessages | drain =>
      exact sound_consumer sound (by simp [Call.next, Consumer.seesEnd]) (by simp [Call.next])
  · rename_i rest front
    exact sound_takeEof sound front call.next
  · rename_i raw rest front
    have delivers : Delivers decode (call.deliver decode raw) raw := by
      cases call <;> simp [Call.deliver, Delivers]
    have taken := @sound_take _ _ _ _ sound _ _ front _ delivers (.taking call) seen (by simp)
    simpa [taking] using taken

theorem sound_getItem (sound : Sound decode pipe) : Sound decode (getItem decode pipe) := by
  unfold getItem
  split
  · exact sound
  · rename_i rest front
    exact sound_takeEof sound front _
  · rename_i raw rest front
    exact sound_take sound front (Or.inr rfl) (by simp [Consumer.seesEnd]) (by simp)

theorem sound_recvBytes (sound : Sound decode pipe) {raw : α} {rest : List α}
    (polling : pipe.reader = .polling) (front : pipe.wire = raw :: rest) :
    Sound decode { pipe with wire := rest, reader := .delivering raw } where
  delivered := sound.delivered
  counted := by
    have counted := sound.counted
    simp only [pending, queued, polling, front, held, List.length_append, List.length_cons,
      List.length_nil] at counted ⊢
    omega
  ordered := fun none => by simpa [pending, queued, polling, front, held] using sound.ordered none
  ended := by simpa [polling, Reader.ended] using sound.ended
  drained := fun ended => absurd ended (by simp [sound.ended, polling, Reader.ended])
  marked := fun member => absurd (sound.marked member).1 (by simp [polling])
  seen := sound.seen
  emptied := sound.emptied

theorem sound_recvEof (sound : Sound decode pipe) (polling : pipe.reader = .polling)
    (silent : pipe.wire = []) (closed : pipe.writerClosed = true) :
    Sound decode { pipe with reader := .puttingEof, eof := true } where
  delivered := sound.delivered
  counted := by simpa [pending, queued, polling, held] using sound.counted
  ordered := fun none => by simpa [pending, queued, polling, held] using sound.ordered none
  ended := rfl
  drained := fun _ => ⟨closed, silent⟩
  marked := fun member => absurd (sound.marked member).1 (by simp [polling])
  seen := fun _ => rfl
  emptied := sound.emptied

theorem sound_put (sound : Sound decode pipe) {raw : α} (delivering : pipe.reader = .delivering raw) :
    Sound decode { pipe with queue := pipe.queue ++ [.frame raw], reader := .polling } where
  delivered := sound.delivered
  counted := by
    have counted := sound.counted
    simp only [pending, queued, delivering, held, List.filterMap_append, filterMap_frame,
      List.filterMap_nil, List.length_append, List.length_cons, List.length_nil] at counted ⊢
    omega
  ordered := fun none => by
    simpa [pending, queued, delivering, held, List.filterMap_append] using sound.ordered none
  ended := by simpa [delivering, Reader.ended] using sound.ended
  drained := fun ended => absurd ended (by simp [sound.ended, delivering, Reader.ended])
  marked := fun member => absurd (sound.marked (by simpa using member)).1 (by simp [delivering])
  seen := sound.seen
  emptied := fun done => by
    have finished : pipe.consumer = .finished := done
    have ended := sound.seen (by simp [finished, Consumer.seesEnd])
    simp [sound.ended, delivering, Reader.ended] at ended

theorem sound_putEof (sound : Sound decode pipe) (putting : pipe.reader = .puttingEof) :
    Sound decode { pipe with queue := pipe.queue ++ [.pipeEof], reader := .exited } := by
  have unmarked : Item.pipeEof ∉ pipe.queue := fun member =>
    absurd (sound.marked member).1 (by simp [putting])
  exact {
    delivered := sound.delivered
    counted := by simpa [pending, queued, putting, held] using sound.counted
    ordered := fun none => by simpa [pending, queued, putting, held] using sound.ordered none
    ended := by simpa [putting, Reader.ended] using sound.ended
    drained := sound.drained
    marked := fun _ => ⟨rfl, queued pipe, by
      rw [List.append_cancel_right_eq]
      exact queue_eq_frames unmarked⟩
    seen := sound.seen
    emptied := fun done => by simpa [queued] using sound.emptied done }

/-- Between two tries of putting the end marker the reader's place does not matter. -/
theorem sound_putEofFull (sound : Sound decode pipe) (putting : pipe.reader = .puttingEof) :
    Sound decode { pipe with reader := .evicting } where
  delivered := sound.delivered
  counted := by simpa [pending, queued, putting, held] using sound.counted
  ordered := fun none => by simpa [pending, queued, putting, held] using sound.ordered none
  ended := by simpa [putting, Reader.ended] using sound.ended
  drained := sound.drained
  marked := fun member => absurd (sound.marked member).1 (by simp [putting])
  seen := sound.seen
  emptied := sound.emptied

theorem sound_evict (sound : Sound decode pipe) (evicting : pipe.reader = .evicting) :
    Sound decode (evictOldest pipe) := by
  have unmarked : Item.pipeEof ∉ pipe.queue := fun member =>
    absurd (sound.marked member).1 (by simp [evicting])
  have ended : pipe.eof = true := by rw [sound.ended, evicting]; rfl
  unfold evictOldest
  split
  · rename_i empty
    exact {
      delivered := sound.delivered
      counted := by simpa [pending, queued, evicting, held] using sound.counted
      ordered := fun none => by simpa [pending, queued, evicting, held] using sound.ordered none
      ended := ended
      drained := sound.drained
      marked := fun member => absurd member unmarked
      seen := sound.seen
      emptied := sound.emptied }
  · rename_i rest front
    simp [front] at unmarked
  · rename_i raw rest front
    simp only [front, List.mem_cons, reduceCtorEq, false_or] at unmarked
    exact {
      delivered := sound.delivered
      counted := by
        have counted := sound.counted
        simp only [pending, queued, evicting, held, front, filterMap_frame,
          List.length_append, List.length_cons, List.length_nil] at counted ⊢
        omega
      ordered := by simp
      ended := ended
      drained := sound.drained
      marked := fun member => absurd member unmarked
      seen := sound.seen
      emptied := fun done => by simpa [queued, front] using sound.emptied done }

theorem sound_step (capacity : ℕ) (sound : Sound decode pipe) (action : Action α) :
    Sound decode (step capacity decode pipe action) := by
  cases action with
  | write raw =>
    simp only [step]
    split
    · exact sound
    · rename_i opened
      exact sound_write sound raw (Bool.eq_false_iff.mpr opened)
  | closeWriter => exact { sound with drained := fun ended => ⟨rfl, (sound.drained ended).2⟩ }
  | recvBytes =>
    simp only [step]
    split
    · exact sound_recvBytes sound ‹_› ‹_›
    · exact sound
  | recvEof =>
    simp only [step]
    split
    · exact sound_recvEof sound ‹_› ‹_› ‹_›
    · exact sound
  | put =>
    simp only [step]
    split
    · split
      · exact sound_put sound ‹_›
      · exact sound
    · exact sound
  | putTimeout => exact sound
  | putEof =>
    simp only [step]
    split
    · split
      · exact sound_putEof sound ‹_›
      · exact sound
    · exact sound
  | putEofFull =>
    simp only [step]
    split
    · split
      · exact sound
      · exact sound_putEofFull sound ‹_›
    · exact sound
  | evict =>
    simp only [step]
    split
    · exact sound_evict sound ‹_›
    · exact sound
  | takeRaw | takeMessages | drainToEof =>
    simp only [step]
    split
    · exact sound_consumer sound (by simp [Consumer.seesEnd]) (by simp)
    · exact sound
  | getNowait =>
    simp only [step]
    split
    · exact sound_getNowait sound ‹_›
    · exact sound
  | testEof =>
    simp only [step]
    split
    · refine sound_consumer sound ?_ ?_
      · cases pipe.eof <;> simp [Consumer.seesEnd]
      · cases pipe.eof <;> simp
    · exact sound
  | get =>
    simp only [step]
    split
    · exact sound_getItem sound
    · exact sound
  | getTimeout =>
    simp only [step]
    split
    · exact sound_consumer sound (by simp [Consumer.seesEnd]) (by simp)
    · exact sound

/-- Only an eviction from a queue that still holds frames adds to the evicted ones. -/
theorem step_evicted (capacity : ℕ) (sound : Sound decode pipe) (action : Action α) :
    (step capacity decode pipe action).evicted = [] ↔
      pipe.evicted = [] ∧ EvictsNothing pipe action := by
  cases action with
  | evict =>
    simp only [step, EvictsNothing, true_implies]
    split
    · rename_i evicting
      simp only [evicting, true_implies]
      unfold evictOldest
      split
      · rename_i empty
        simp [empty]
      · rename_i rest front
        have exited := (sound.marked (by simp [front])).1
        simp [evicting] at exited
      · rename_i raw rest front
        simp [front]
    · rename_i elsewhere
      exact ⟨fun none => ⟨none, fun evicting => (elsewhere evicting).elim⟩, And.left⟩
  | getNowait =>
    simp only [step, EvictsNothing, reduceCtorEq, false_implies, and_true]
    split
    · unfold getNowait
      split <;> rfl
    · rfl
  | get =>
    simp only [step, EvictsNothing, reduceCtorEq, false_implies, and_true]
    split
    · unfold getItem
      split <;> rfl
    · rfl
  | write | closeWriter | recvBytes | recvEof | put | putTimeout | putEof | putEofFull | takeRaw
  | takeMessages | drainToEof | testEof | getTimeout =>
    simp only [step, EvictsNothing, reduceCtorEq, false_implies, and_true]
    repeat' split
    all_goals rfl

theorem run_evicted (capacity : ℕ) (sound : Sound decode pipe) (actions : List (Action α)) :
    (Machine.run (step capacity decode) pipe actions).evicted = [] ↔
      pipe.evicted = [] ∧ Machine.Along (step capacity decode) EvictsNothing pipe actions := by
  induction actions generalizing pipe with
  | nil => simp [Machine.Along]
  | cons action rest ih =>
    rw [Machine.run_cons, ih (sound_step capacity sound action), step_evicted capacity sound,
      Machine.Along, and_assoc]

end Steps

/-- In every run at whose end a drain has seen the end of the pipe, the deliveries are the frames
sent, in order and each once, exactly if making room for the end marker never took a frame. -/
theorem finished_run_delivers_iff (capacity : ℕ) (decode : α → β) (actions : List (Action α))
    (finished : (Machine.run (step capacity decode) Pipe.start actions).consumer = .finished) :
    List.Forall₂ (Delivers decode) (Machine.run (step capacity decode) Pipe.start actions).received
        (Machine.run (step capacity decode) Pipe.start actions).sent ↔
      Machine.Along (step capacity decode) EvictsNothing Pipe.start actions := by
  have sound : Sound decode (Machine.run (step capacity decode) Pipe.start actions) :=
    Machine.run_invariant (sound_start decode) (fun _ action sound => sound_step capacity sound action) _
  have account := run_evicted capacity (sound_start decode) actions
  generalize Machine.run (step capacity decode) Pipe.start actions = final at *
  have ended : final.eof = true := sound.seen (by simp [finished, Consumer.seesEnd])
  have nothing : pending final = [] := by
    have idle : held final.reader = [] := held_of_ended (sound.ended ▸ ended)
    simp [pending, idle, sound.emptied finished, (sound.drained ended).2]
  have counted := sound.counted
  rw [nothing] at counted
  constructor
  · intro exact
    have lengths := exact.length_eq.symm.trans sound.delivered.length_eq
    have none : final.evicted = [] := List.eq_nil_of_length_eq_zero (by simp at counted; omega)
    exact (account.mp none).2
  · intro quiet
    have ordered := sound.ordered (account.mpr ⟨rfl, quiet⟩)
    rw [nothing, List.append_nil] at ordered
    exact ordered ▸ sound.delivered

/-- A worker writes two frames through a queue of one, the consumer keeps up, and both arrive. -/
theorem finished_run_delivers_two :
    List.Forall₂ (Delivers id) [.message 1, .raw 2] [1, 2] ∧
      Machine.Along (step 1 id) EvictsNothing (Pipe.start : Pipe ℕ ℕ)
        [.write 1, .write 2, .closeWriter, .recvBytes, .put, .recvBytes, .takeMessages, .getNowait,
          .getNowait, .put, .takeRaw, .getNowait, .getNowait, .recvEof, .putEof, .drainToEof,
          .getNowait, .testEof, .getNowait] := by
  have exact : List.Forall₂ (Delivers (id : ℕ → ℕ)) [.message 1, .raw 2] [1, 2] :=
    .cons (Or.inr rfl) (.cons (Or.inl rfl) .nil)
  exact ⟨exact, (finished_run_delivers_iff 1 id _ (by decide)).mp exact⟩

/-- The end marker takes the place of the only frame: the drain returns and nothing was delivered. -/
theorem end_marker_evicts_frame :
    let final := Machine.run (step 1 id) (Pipe.start : Pipe ℕ ℕ)
      [.write 7, .closeWriter, .recvBytes, .put, .recvEof, .putEofFull, .evict, .putEof, .drainToEof,
        .getNowait, .testEof, .getNowait]
    final.consumer = .finished ∧ final.sent = [7] ∧ final.received = [] ∧
      ¬ List.Forall₂ (Delivers id) final.received final.sent := by
  refine ⟨by decide, by decide, by decide, fun exact => ?_⟩
  exact absurd exact.length_eq (by decide)

end Tasklite.Utils.Delivery
