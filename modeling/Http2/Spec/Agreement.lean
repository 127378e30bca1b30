import Http2.Native.Stream

/-!
# Two endpoints agree on the state of a stream

Two endpoints run `stream.transition` on one stream, joined by two FIFO channels: a frame is
sent when the sender's send transition succeeds, and delivered in order to the peer's receive
transition. Each state is read as two halves, the one the endpoint sends on and the one it
receives on; a frame moves the sender's send half and then the receiver's receive half by the
same `Half.next`. `Agree` records what is known where a half moves without a frame of its
own: the opening frame, RST_STREAM and the reset flags.

## Key results

- `agree_step`: every step of the two endpoints preserves `Agree`.
- `peers_agree`: no delivery yields a `StreamError` or `ConnError`, and with both channels
  empty the two states are mirror images.
-/

namespace Http2

/-- The status of one direction of a stream: unused, promised by PUSH_PROMISE, carrying
    frames, or finished. -/
inductive Half where
  | idle | reserved | active | closed
  deriving DecidableEq, Repr

namespace StreamState

/-- The half this endpoint sends on. -/
def sendHalf : StreamState → Half
  | stateIdle => .idle
  | stateReservedLocal => .reserved
  | stateReservedRemote => .closed
  | stateOpen => .active
  | stateHalfClosedLocal => .closed
  | stateHalfClosedRemote => .active
  | stateClosed => .closed

/-- The half the peer sends on, as this endpoint sees it. -/
def recvHalf : StreamState → Half
  | stateIdle => .idle
  | stateReservedLocal => .closed
  | stateReservedRemote => .reserved
  | stateOpen => .active
  | stateHalfClosedLocal => .active
  | stateHalfClosedRemote => .closed
  | stateClosed => .closed

/-- The state the peer holds when both endpoints agree. -/
def mirror : StreamState → StreamState
  | stateReservedLocal => stateReservedRemote
  | stateReservedRemote => stateReservedLocal
  | stateHalfClosedLocal => stateHalfClosedRemote
  | stateHalfClosedRemote => stateHalfClosedLocal
  | st => st

/-- Two states with swapped halves are mirror images. -/
theorem eq_mirror_of_halves {s t : StreamState} (h₁ : s.sendHalf = t.recvHalf)
    (h₂ : s.recvHalf = t.sendHalf) : s = t.mirror := by
  cases s <;> cases t <;> simp_all [sendHalf, recvHalf, mirror]

end StreamState

namespace Frame

/-- A PRIORITY frame. -/
def isPriority (f : Frame) : Bool := f.type == .priority

/-- An RST_STREAM frame. -/
def isReset (f : Frame) : Bool := f.type == .rstStream

/-- END_STREAM is set only on DATA and HEADERS. -/
def WellFormed (f : Frame) : Prop := f.endStream = true → f.type = .data ∨ f.type = .headers

@[simp] theorem isPriority_eq_true (f : Frame) : f.isPriority = true ↔ f.type = .priority := by
  simp [isPriority]

@[simp] theorem isReset_eq_true (f : Frame) : f.isReset = true ↔ f.type = .rstStream := by
  simp [isReset]

@[simp] theorem isPriority_eq_false (f : Frame) : f.isPriority = false ↔ f.type ≠ .priority := by
  simp [isPriority]

@[simp] theorem isReset_eq_false (f : Frame) : f.isReset = false ↔ f.type ≠ .rstStream := by
  simp [isReset]

end Frame

namespace Half

/-- How a frame moves a half. The sender's send half and the receiver's receive half move
    alike; `none` is a frame the half does not admit. -/
def next (h : Half) (f : Frame) : Option Half :=
  match h, f.type with
  | idle, .headers | reserved, .headers => some (if f.endStream then closed else active)
  | idle, .pushPromise => some reserved
  | idle, .priority => some idle
  | reserved, .priority => some reserved
  | reserved, .rstStream | active, .rstStream => some closed
  | active, _ => some (if f.endStream then closed else active)
  | closed, .priority | closed, .windowUpdate | closed, .rstStream => some closed
  | _, _ => none

/-- A sequence of frames moving a half. -/
def run (h : Half) : List Frame → Option Half
  | [] => some h
  | f :: q => (h.next f).bind fun h' => h'.run q

@[simp] theorem run_nil (h : Half) : h.run [] = some h := rfl

@[simp] theorem run_cons (h : Half) (f : Frame) (q : List Frame) :
    h.run (f :: q) = (h.next f).bind fun h' => h'.run q := rfl

theorem run_append_single (h : Half) (q : List Frame) (f : Frame) :
    h.run (q ++ [f]) = (h.run q).bind fun h' => h'.next f := by
  induction q generalizing h with
  | nil => simp only [List.nil_append, run_cons, run_nil, Option.some_bind]; cases h.next f <;> rfl
  | cons g q ih => simp only [List.cons_append, run_cons, ih, Option.bind_assoc]

/-- PRIORITY leaves every half where it is. -/
theorem next_priority (h : Half) {f : Frame} (hf : f.isPriority = true) (hes : f.WellFormed) :
    h.next f = some h := by
  obtain ⟨t, es⟩ := f
  simp only [Frame.isPriority, beq_iff_eq] at hf
  subst hf
  cases es
  · cases h <;> rfl
  · simp [Frame.WellFormed] at hes

/-- From idle, only HEADERS, PUSH_PROMISE and PRIORITY are admitted. -/
theorem next_idle_type {f : Frame} {h : Half} (hn : next .idle f = some h) :
    f.type = .headers ∨ f.type = .pushPromise ∨ f.type = .priority := by
  obtain ⟨t, es⟩ := f
  cases t <;> simp_all [next]

theorem run_of_all_priority (h : Half) {q : List Frame} (hq : q.all Frame.isPriority = true)
    (hw : ∀ f ∈ q, f.WellFormed) : h.run q = some h := by
  induction q with
  | nil => rfl
  | cons f q ih =>
    simp only [List.all_cons, Bool.and_eq_true] at hq
    simp [next_priority h hq.1 (hw f (by simp)), ih hq.2 fun g hg => hw g (by simp [hg])]

end Half

/-- The receive half the opening endpoint holds once the first frame of `q` other than
    PRIORITY is sent: HEADERS opens both halves, PUSH_PROMISE leaves the peer's closed. -/
def openedHalf : List Frame → Half
  | [] => .idle
  | f :: q =>
    if f.type = .priority then openedHalf q
    else if f.type = .headers then .active else .closed

/-- The first RST_STREAM of `q` is followed by PRIORITY frames only. -/
def resetLast : List Frame → Bool
  | [] => false
  | f :: q => if f.type = .rstStream then q.all Frame.isPriority else resetLast q

/-! ## One transition, read on halves -/

namespace Dir

/-- PRIORITY without END_STREAM is admitted in every state and changes nothing. -/
theorem transition_priority (d : Dir) (st : StreamState) :
    d.transition st .priority false = some st := by
  cases d <;> cases st <;> rfl

/-- A send the table admits moves the send half by `Half.next`; the receive half moves only
    on an opening frame or RST_STREAM. -/
theorem send_halves {st st' : StreamState} {f : Frame} (hf : f.WellFormed)
    (h : send.transition st f.type f.endStream = some st') :
    Half.next st.sendHalf f = some st'.sendHalf ∧
    st'.recvHalf = (if f.type = .rstStream then .closed
      else if st = .stateIdle then openedHalf [f] else st.recvHalf) ∧
    (f.type = .rstStream → st' = .stateClosed) ∧
    (st = .stateClosed → f.type = .priority) ∧
    (f.type = .priority → st' = st) ∧
    (st' = .stateIdle → st = .stateIdle ∧ f.type = .priority) := by
  -- each case is a frame `WellFormed` rules out, a refusal, or a closed check; UNKNOWN
  -- carries a code that no table reads
  obtain ⟨t, es⟩ := f
  cases st <;> cases t <;> cases es <;>
    first
    | exact absurd (hf rfl) (by decide)
    | cases h <;> first | decide | simp [Half.next, endStreamTo, StreamState.sendHalf,
        StreamState.recvHalf]

/-- A frame the receive half admits is taken by the table, and moves the receive half by
    `Half.next`; or the stream is Closed and the frame is WINDOW_UPDATE or RST_STREAM. -/
theorem recv_halves {st : StreamState} {f : Frame} {h : Half} (hf : f.WellFormed)
    (hh : Half.next st.recvHalf f = some h) :
    (∃ st', recv.transition st f.type f.endStream = some st' ∧ st'.recvHalf = h ∧
      st'.sendHalf = (if f.type = .rstStream then .closed
        else if st = .stateIdle then openedHalf [f] else st.sendHalf) ∧
      (f.type = .rstStream → st' = .stateClosed) ∧ (f.type = .priority → st' = st) ∧
      (st = .stateClosed → st' = .stateClosed) ∧
      (st' = .stateIdle → st = .stateIdle ∧ f.type = .priority)) ∨
    (recv.transition st f.type f.endStream = none ∧ st = .stateClosed ∧
      (f.type = .rstStream ∨ f.type = .windowUpdate) ∧ h = .closed) := by
  obtain ⟨t, es⟩ := f
  cases st <;> cases t <;> cases es <;>
    first
    | exact absurd (hf rfl) (by decide)
    | cases hh <;> first
      | exact .inl ⟨_, rfl, by decide⟩
      | exact .inr (by decide)
      | simp [transition, recvTo, endStreamTo, Half.next, StreamState.sendHalf,
          StreamState.recvHalf]

end Dir

namespace Stream

/-- A receive at time `now` falls within the grace period of the receiver's close. -/
def InGrace (s : Stream) (now : Int) : Prop :=
  s.state = .stateClosed → now - s.closed ≤ graceWindow

/-- A freshly created stream: Idle, never reset. -/
def Fresh (s : Stream) : Prop :=
  s.state = .stateIdle ∧ s.resetSent = false ∧ s.resetReceived = false

/-- What an accepted send does to the sending endpoint, read on halves. -/
structure SendEffect (x x' : Stream) (f : Frame) : Prop where
  sendHalf : Half.next x.state.sendHalf f = some x'.state.sendHalf
  recvHalf : x'.state.recvHalf = (if f.type = .rstStream then .closed
    else if x.state = .stateIdle then openedHalf [f] else x.state.recvHalf)
  resetSent : x'.resetSent = (x.resetSent || f.isReset)
  resetReceived : x'.resetReceived = x.resetReceived
  closed_of_reset : f.type = .rstStream → x'.state = .stateClosed
  priority_of_closed : x.state = .stateClosed → f.type = .priority
  state_of_priority : f.type = .priority → x'.state = x.state
  idle : x'.state = .stateIdle → x.state = .stateIdle ∧ f.type = .priority

/-- What a delivered frame does to the receiving endpoint, read on halves. -/
structure RecvEffect (y y' : Stream) (f : Frame) (h : Half) : Prop where
  recvHalf : y'.state.recvHalf = h
  sendHalf : y'.state.sendHalf = (if f.type = .rstStream then .closed
    else if y.state = .stateIdle then openedHalf [f] else y.state.sendHalf)
  resetSent : y'.resetSent = y.resetSent
  resetReceived : y'.resetReceived = true → y.resetReceived = true ∨ f.type = .rstStream
  closed_of_reset : f.type = .rstStream → y'.state = .stateClosed
  closed_of_closed : y.state = .stateClosed → y'.state = .stateClosed
  state_of_priority : f.type = .priority → y'.state = y.state
  idle : y'.state = .stateIdle → y.state = .stateIdle ∧ f.type = .priority

/-- A send that `stream.transition` accepts has a `SendEffect`. -/
theorem send_spec {x x' : Stream} {f : Frame} {now : Int} {r : StreamState × Option Error}
    (hf : f.WellFormed) (hx : x.transition .send f.type f.endStream now = (r, x'))
    (hr : r.2 = none) : SendEffect x x' f := by
  cases hd : Dir.send.transition x.state f.type f.endStream with
  | none => simp [transition_of_none now hd] at hx; simp [← hx.1] at hr
  | some st' =>
    obtain ⟨h₁, h₂, h₃, h₄, h₅, h₆⟩ := Dir.send_halves hf hd
    have hm := markReset_flags (x.compareAndSwapState st' now) st' .send f.type
    rw [transition_of_some now hd, Prod.mk.injEq] at hx
    obtain ⟨rfl, rfl⟩ := hx
    simp only [markReset_state, compareAndSwapState_state, compareAndSwapState_resetSent,
      compareAndSwapState_resetReceived] at hm
    refine ⟨by simpa using h₁, by simpa using h₂, ?_, by simp [hm.2], by simpa using h₃, h₄,
      by simpa using h₅, by simpa using h₆⟩
    rw [hm.1]
    by_cases ht : f.type = .rstStream
    · simp [ht, h₃ ht, Frame.isReset]
    · have hb : (f.type == .rstStream) = false := by simpa using ht
      simp [hb, Frame.isReset]

/-- A frame the receive half admits, delivered to a stream that has not sent RST_STREAM, is
    taken or ignored, and has a `RecvEffect`. -/
theorem recv_of_half {y y' : Stream} {f : Frame} {now : Int} {h : Half}
    {r : StreamState × Option Error} (hf : f.WellFormed)
    (hy : y.transition .recv f.type f.endStream now = (r, y'))
    (hrs : y.resetSent = false) (hrr : y.resetReceived = true → f.type = .priority)
    (hg : y.InGrace now) (hh : Half.next y.state.recvHalf f = some h) :
    (r.2 = none ∨ r.2 = some .ignoreFrame) ∧ RecvEffect y y' f h := by
  rcases Dir.recv_halves hf hh with ⟨st', hd, h₁, h₂, h₃, h₄, h₅, h₆⟩ | ⟨hd, hc, ht, rfl⟩
  · have hm := markReset_flags (y.compareAndSwapState st' now) st' .recv f.type
    rw [transition_of_some now hd, Prod.mk.injEq] at hy
    obtain ⟨rfl, rfl⟩ := hy
    simp only [markReset_state, compareAndSwapState_state, compareAndSwapState_resetSent,
      compareAndSwapState_resetReceived] at hm
    refine ⟨by simp, by simpa using h₁, by simpa using h₂, by simp [hm.1], ?_, by simpa using h₃,
      by simpa using h₅, by simpa using h₄, by simpa using h₆⟩
    intro hrcv; rw [hm.2] at hrcv; by_cases hz : y.resetReceived <;> simp_all
  · have hrr' : y.resetReceived = false := by
      cases hz : y.resetReceived <;> rcases ht with ht | ht <;> simp_all
    rw [transition_of_none now hd, Prod.mk.injEq] at hy
    obtain ⟨rfl, rfl⟩ := hy
    refine ⟨.inr ?_, ⟨by simp [hc, StreamState.recvHalf], ?_, rfl, by simp [hrr'],
      fun _ => hc, fun h => h, fun _ => rfl, by simp [hc]⟩⟩
    · rcases ht with ht | ht <;> simp [refusal, hrr', hrs, hc, hg hc, ht]
    · rcases ht with ht | ht <;> simp [hc, ht, StreamState.sendHalf]

/-- A stream that sent RST_STREAM is Closed and ignores every frame other than PRIORITY; no
    frame changes it. -/
theorem recv_of_resetSent {y y' : Stream} {f : Frame} {now : Int}
    {r : StreamState × Option Error} (hf : f.WellFormed)
    (hy : y.transition .recv f.type f.endStream now = (r, y'))
    (hrs : y.resetSent = true) (hc : y.state = .stateClosed)
    (hrr : y.resetReceived = true → f.type = .priority) (hg : y.InGrace now) :
    (r.2 = none ∨ r.2 = some .ignoreFrame) ∧ y' = y := by
  obtain ⟨t, es⟩ := f
  by_cases hp : t = .priority
  · subst hp
    have hes : es = false := by cases es <;> simp_all [Frame.WellFormed]
    subst hes
    rw [transition_of_some now (Dir.transition_priority .recv y.state), Prod.mk.injEq] at hy
    obtain ⟨rfl, rfl⟩ := hy
    refine ⟨by simp, ?_⟩
    cases y; simp_all [Stream.markReset, compareAndSwapState]
  · have hd : Dir.recv.transition y.state t es = none := by
      rw [hc]; cases t <;> simp_all [Dir.transition, Dir.recvTo]
    have hrr' : y.resetReceived = false := by
      cases hz : y.resetReceived <;> simp_all
    rw [transition_of_none now hd, Prod.mk.injEq] at hy
    obtain ⟨rfl, rfl⟩ := hy
    simp [refusal, hrr', hrs, hg hc]

end Stream

theorem openedHalf_append (q : List Frame) (f : Frame) :
    openedHalf (q ++ [f]) = if q.all Frame.isPriority then openedHalf [f] else openedHalf q := by
  induction q with
  | nil => simp
  | cons g q ih => by_cases hg : g.type = .priority <;> simp [openedHalf, hg, ih]

theorem resetLast_append (q : List Frame) (f : Frame) :
    resetLast (q ++ [f]) = if q.any Frame.isReset then resetLast q && f.isPriority else f.isReset := by
  induction q with
  | nil => by_cases hf : f.type = .rstStream <;> simp [resetLast, hf, Frame.isReset]
  | cons g q ih =>
    by_cases hg : g.type = .rstStream
    · simp [resetLast, hg, Frame.isReset]
    · simp [resetLast, hg, ih]

theorem any_reset_of_resetLast {q : List Frame} (h : resetLast q = true) :
    q.any Frame.isReset = true := by
  induction q with
  | nil => simp [resetLast] at h
  | cons g q ih => by_cases hg : g.type = .rstStream <;> simp_all [resetLast]

theorem any_reset_of_all_priority {q : List Frame} (h : q.all Frame.isPriority = true) :
    q.any Frame.isReset = false := by
  induction q with
  | nil => rfl
  | cons g q ih => simp_all

/-- The two endpoints and the frames in flight between them. -/
structure Peers where
  /-- The endpoint that opens the stream. -/
  a : Stream
  b : Stream
  /-- Frames in flight from `a` to `b`, oldest first. -/
  toB : List Frame
  /-- Frames in flight from `b` to `a`, oldest first. -/
  toA : List Frame

namespace Peers

/-- One step of the two endpoints: a send that `stream.transition` accepts, or the
    delivery of the oldest frame in flight. Only `a` leaves Idle by sending. -/
inductive Step : Peers → Peers → Prop
  | sendA {p : Peers} {f : Frame} {now : Int} : f.WellFormed →
      (p.a.transition .send f.type f.endStream now).1.2 = none →
      Step p { p with a := (p.a.transition .send f.type f.endStream now).2, toB := p.toB ++ [f] }
  | sendB {p : Peers} {f : Frame} {now : Int} : f.WellFormed →
      (p.b.state = .stateIdle → f.type ≠ .headers ∧ f.type ≠ .pushPromise) →
      (p.b.transition .send f.type f.endStream now).1.2 = none →
      Step p { p with b := (p.b.transition .send f.type f.endStream now).2, toA := p.toA ++ [f] }
  | recvB {p : Peers} {f : Frame} {q : List Frame} {now : Int} : p.toB = f :: q →
      p.b.InGrace now →
      Step p { p with b := (p.b.transition .recv f.type f.endStream now).2, toB := q }
  | recvA {p : Peers} {f : Frame} {q : List Frame} {now : Int} : p.toA = f :: q →
      p.a.InGrace now →
      Step p { p with a := (p.a.transition .recv f.type f.endStream now).2, toA := q }

/-- The states two fresh endpoints reach by any interleaving of steps. -/
inductive Reachable : Peers → Prop
  | init {a b : Stream} : a.Fresh → b.Fresh → Reachable ⟨a, b, [], []⟩
  | step {p p' : Peers} : Reachable p → Step p p' → Reachable p'

end Peers

end Http2

namespace Http2

namespace StreamState

@[simp] theorem sendHalf_eq_idle {st : StreamState} : st.sendHalf = .idle ↔ st = .stateIdle := by
  cases st <;> simp [sendHalf]

@[simp] theorem recvHalf_idle : stateIdle.recvHalf = .idle := rfl

end StreamState

namespace Peers

/-- What holds of the two endpoints and the frames between them in every reachable state. -/
structure Agree (p : Peers) : Prop where
  wf_toB : ∀ f ∈ p.toB, f.WellFormed
  wf_toA : ∀ f ∈ p.toA, f.WellFormed
  a_closed : p.a.resetSent = true → p.a.state = .stateClosed
  b_closed : p.b.resetSent = true → p.b.state = .stateClosed
  /-- Until `a` opens the stream, nothing but PRIORITY has been sent. -/
  a_idle : p.a.state = .stateIdle →
    p.b.state = .stateIdle ∧ p.toB.all Frame.isPriority ∧ p.toA.all Frame.isPriority
  /-- An RST_STREAM in flight was sent by a sender that reset, and only PRIORITY follows. -/
  reset_toB : p.toB.any Frame.isReset = true → p.a.resetSent = true ∧ resetLast p.toB = true
  reset_toA : p.toA.any Frame.isReset = true → p.b.resetSent = true ∧ resetLast p.toA = true
  /-- A received RST_STREAM came from a peer that reset, and only PRIORITY followed it. -/
  a_resetReceived : p.a.resetReceived = true →
    p.b.resetSent = true ∧ p.toA.all Frame.isPriority
  b_resetReceived : p.b.resetReceived = true →
    p.a.resetSent = true ∧ p.toB.all Frame.isPriority
  /-- A sent RST_STREAM is still in flight, or the peer is Closed. -/
  a_reset_delivered : p.a.resetSent = true → resetLast p.toB = true ∨ p.b.state = .stateClosed
  b_reset_delivered : p.b.resetSent = true → resetLast p.toA = true ∨ p.a.state = .stateClosed
  /-- The frames in flight carry `a`'s send half to `b`'s receive half. -/
  toB_half : p.b.resetSent = false → Half.run p.b.state.recvHalf p.toB = some p.a.state.sendHalf
  /-- The frames in flight carry `b`'s send half to `a`'s receive half, once `b` is open. -/
  toA_half : p.a.resetSent = false → p.b.state ≠ .stateIdle →
    Half.run p.a.state.recvHalf p.toA = some p.b.state.sendHalf
  /-- While `b` is Idle, `a`'s receive half is what its opening frame made it. -/
  opening : p.a.resetSent = false → p.b.state = .stateIdle →
    p.toA.all Frame.isPriority = true ∧ p.a.state.recvHalf = openedHalf p.toB

theorem agree_init {a b : Stream} (ha : a.Fresh) (hb : b.Fresh) : Agree ⟨a, b, [], []⟩ := by
  obtain ⟨ha, ha₁, ha₂⟩ := ha
  obtain ⟨hb, hb₁, hb₂⟩ := hb
  constructor <;> simp_all [resetLast, openedHalf, StreamState.sendHalf]

theorem all_priority_cons {f : Frame} {q : List Frame} :
    (f :: q).all Frame.isPriority = true ↔ f.type = .priority ∧ q.all Frame.isPriority = true := by
  simp only [List.all_cons, Bool.and_eq_true, Frame.isPriority_eq_true]

/-- After the oldest frame in flight is delivered, what `Agree` says of resets in the rest
    of the queue still holds. -/
theorem reset_tail {q : List Frame} {f : Frame} {x : Stream}
    (h : (f :: q).any Frame.isReset = true → x.resetSent = true ∧ resetLast (f :: q) = true) :
    q.any Frame.isReset = true → x.resetSent = true ∧ resetLast q = true := fun hq => by
  obtain ⟨h₁, h₂⟩ := h (by simp only [List.any_cons, hq, Bool.or_true])
  by_cases ht : f.type = .rstStream
  · simp only [resetLast, ht, ↓reduceIte] at h₂
    rw [any_reset_of_all_priority h₂] at hq
    exact absurd hq Bool.false_ne_true
  · exact ⟨h₁, by simpa [resetLast, ht] using h₂⟩

/-- The rest of a queue whose first frame was a PRIORITY-only queue's member. -/
theorem all_priority_tail {f : Frame} {q : List Frame}
    (h : (f :: q).all Frame.isPriority = true) : q.all Frame.isPriority = true :=
  (all_priority_cons.1 h).2

theorem wf_append {q : List Frame} {f : Frame} (hq : ∀ g ∈ q, g.WellFormed) (hf : f.WellFormed) :
    ∀ g ∈ q ++ [f], g.WellFormed := fun g hg => by
  rcases List.mem_append.1 hg with hg | hg
  · exact hq g hg
  · rw [List.mem_singleton.1 hg]; exact hf

/-! ## Resets, one direction at a time -/

/-- The reset bookkeeping of `Agree` for one direction, in which `x` sends the frames `q` to
    `y`. -/
structure ResetFacts (x y : Stream) (q : List Frame) : Prop where
  /-- A sender that reset is Closed. -/
  closed : x.resetSent = true → x.state = .stateClosed
  /-- An RST_STREAM in flight was sent by a sender that reset, and only PRIORITY follows. -/
  reset_to : q.any Frame.isReset = true → x.resetSent = true ∧ resetLast q = true
  /-- A received RST_STREAM came from a sender that reset, and only PRIORITY followed it. -/
  peer_resetReceived : y.resetReceived = true →
    x.resetSent = true ∧ q.all Frame.isPriority = true
  /-- A sent RST_STREAM is still in flight, or the receiver is Closed. -/
  delivered : x.resetSent = true → resetLast q = true ∨ y.state = .stateClosed

namespace ResetFacts

variable {x x' y y' : Stream} {q : List Frame} {f : Frame}

/-- A send by `x` keeps the bookkeeping of its direction. -/
theorem send (h : ResetFacts x y q) (e : Stream.SendEffect x x' f) :
    ResetFacts x' y (q ++ [f]) := by
  -- once `x` has reset it is Closed, and from Closed it sends PRIORITY only
  have hcl : x.resetSent = true → f.type = .priority ∧ x'.state = .stateClosed := fun hr =>
    have hc := h.closed hr
    ⟨e.priority_of_closed hc, (e.state_of_priority (e.priority_of_closed hc)).trans hc⟩
  -- an RST_STREAM is sent at most once
  have hfirst : f.type = .rstStream → x.resetSent = false ∧ q.any Frame.isReset = false :=
    fun ht => by
      have h₁ : x.resetSent = false := by
        cases hr : x.resetSent
        · rfl
        · simp [(hcl hr).1] at ht
      exact ⟨h₁, by cases hq : q.any Frame.isReset <;> simp_all [h.reset_to]⟩
  refine ⟨fun hr => ?_, fun hr => ?_, fun hr => ?_, fun hr => ?_⟩
  · rw [e.resetSent] at hr
    by_cases ht : f.type = .rstStream
    · exact e.closed_of_reset ht
    · exact (hcl (by simpa [ht] using hr)).2
  · by_cases ht : f.type = .rstStream
    · simp [e.resetSent, ht, resetLast_append, (hfirst ht).2]
    · have h' : q.any Frame.isReset = true := by simpa [ht] using hr
      obtain ⟨h₁, h₂⟩ := h.reset_to h'
      simp [e.resetSent, h₁, resetLast_append, h', h₂, (hcl h₁).1]
  · obtain ⟨h₁, h₂⟩ := h.peer_resetReceived hr
    simp [e.resetSent, h₁, h₂, (hcl h₁).1]
  · by_cases ht : f.type = .rstStream
    · simp [resetLast_append, (hfirst ht).2, ht]
    · have h₁ : x.resetSent = true := by simpa [e.resetSent, ht] using hr
      rcases h.delivered h₁ with h₂ | h₂
      · simp [resetLast_append, any_reset_of_resetLast h₂, h₂, (hcl h₁).1]
      · exact .inr h₂

/-- A send by the receiver `y` keeps the bookkeeping of `x`'s direction: a Closed `y` sends
    PRIORITY only and stays Closed. -/
theorem peer_send (h : ResetFacts x y q) (e : Stream.SendEffect y y' f) : ResetFacts x y' q :=
  ⟨h.closed, h.reset_to, h.peer_resetReceived.comp (e.resetReceived ▸ ·), fun hr =>
    (h.delivered hr).imp_right fun hc => (e.state_of_priority (e.priority_of_closed hc)).trans hc⟩

/-- `y` takes or ignores the oldest frame of `x`'s direction: a received RST_STREAM is the
    one in flight, and a delivered one closes `y`. -/
theorem recv {hh : Half} (h : ResetFacts x y (f :: q)) (e : Stream.RecvEffect y y' f hh) :
    ResetFacts x y' q := by
  refine ⟨h.closed, reset_tail h.reset_to, fun hr => ?_, fun hr => ?_⟩
  · rcases e.resetReceived hr with h₁ | h₁
    · exact (h.peer_resetReceived h₁).imp_right all_priority_tail
    · obtain ⟨h₂, h₃⟩ := h.reset_to (by simp [h₁])
      exact ⟨h₂, by simpa [resetLast, h₁] using h₃⟩
  · rcases h.delivered hr with h₁ | h₁
    · by_cases ht : f.type = .rstStream
      · exact .inr (e.closed_of_reset ht)
      · exact .inl (by simpa [resetLast, ht] using h₁)
    · exact .inr (e.closed_of_closed h₁)

/-- A Closed `y` ignores the oldest frame of `x`'s direction. -/
theorem recv_closed (h : ResetFacts x y (f :: q)) (hc : y.state = .stateClosed) :
    ResetFacts x y q :=
  ⟨h.closed, reset_tail h.reset_to, fun hr => (h.peer_resetReceived hr).imp_right all_priority_tail,
    fun _ => .inr hc⟩

/-- While `x` has not reset, a delivery to `x` keeps the bookkeeping of its direction. -/
theorem peer_recv (h : ResetFacts x y q) (hrs : x.resetSent = false)
    (hrs' : x'.resetSent = false) : ResetFacts x' y q :=
  ⟨fun hr => by simp [hrs'] at hr, fun hq => by simpa [hrs] using (h.reset_to hq).1,
    fun hr => by simpa [hrs] using (h.peer_resetReceived hr).1, fun hr => by simp [hrs'] at hr⟩

end ResetFacts

theorem Agree.factsA {p : Peers} (hp : Agree p) : ResetFacts p.a p.b p.toB :=
  ⟨hp.a_closed, hp.reset_toB, hp.b_resetReceived, hp.a_reset_delivered⟩

theorem Agree.factsB {p : Peers} (hp : Agree p) : ResetFacts p.b p.a p.toA :=
  ⟨hp.b_closed, hp.reset_toA, hp.a_resetReceived, hp.b_reset_delivered⟩

/-! ## Each step preserves `Agree` -/

/-- A send by `a` preserves `Agree`. -/
theorem agree_sendA {p : Peers} {f : Frame} {now : Int} {r : StreamState × Option Error}
    {a' : Stream} (hp : Agree p) (hf : f.WellFormed)
    (ha : p.a.transition .send f.type f.endStream now = (r, a')) (hr : r.2 = none) :
    Agree { p with a := a', toB := p.toB ++ [f] } := by
  have e := Stream.send_spec hf ha hr
  obtain ⟨c₁, r₁, p₁, d₁⟩ := hp.factsA.send e
  obtain ⟨c₂, r₂, p₂, d₂⟩ := hp.factsB.peer_send e
  refine ⟨wf_append hp.wf_toB hf, hp.wf_toA, c₁, c₂, fun h => ?_, r₁, r₂, p₂, p₁, d₁, d₂,
    fun h => ?_, fun h hb => ?_, fun h hb => ?_⟩
  · -- a_idle
    obtain ⟨ha₀, hp₀⟩ := e.idle h
    obtain ⟨hb, hB, hA⟩ := hp.a_idle ha₀
    exact ⟨hb, by simp_all, hA⟩
  · -- toB_half
    simp [Half.run_append_single, hp.toB_half h, e.sendHalf]
  · -- toA_half
    have ht : f.type ≠ .rstStream := by intro ht; simp [e.resetSent, ht] at h
    have ha₀ : p.a.state ≠ .stateIdle := fun hi => hb (hp.a_idle hi).1
    have h₁ : p.a.resetSent = false := (by simpa [e.resetSent] using h : _ ∧ _).1
    simpa [e.recvHalf, ht, ha₀] using hp.toA_half h₁ hb
  · -- opening
    have ht : f.type ≠ .rstStream := by intro ht; simp [e.resetSent, ht] at h
    have h₁ : p.a.resetSent = false := (by simpa [e.resetSent] using h : _ ∧ _).1
    obtain ⟨hA, hopen⟩ := hp.opening h₁ hb
    refine ⟨hA, ?_⟩
    by_cases ha₀ : p.a.state = .stateIdle
    · simp [e.recvHalf, ht, ha₀, openedHalf_append, (hp.a_idle ha₀).2.1]
    · -- `a` is open, so its opening frame is already in flight
      have hB : p.toB.all Frame.isPriority = false := by
        cases hB : p.toB.all Frame.isPriority
        · rfl
        · have := hp.toB_half (by cases hz : p.b.resetSent <;> simp_all [hp.b_closed])
          rw [hb, StreamState.recvHalf_idle, Half.run_of_all_priority _ hB
            (fun g hg => hp.wf_toB g hg)] at this
          exact absurd (StreamState.sendHalf_eq_idle.1 (Option.some.inj this).symm) ha₀
      simp [e.recvHalf, ht, ha₀, openedHalf_append, hB, hopen]

/-- A send by `b` preserves `Agree`; while Idle, `b` sends PRIORITY only. -/
theorem agree_sendB {p : Peers} {f : Frame} {now : Int} {r : StreamState × Option Error}
    {b' : Stream} (hp : Agree p) (hf : f.WellFormed)
    (hI : p.b.state = .stateIdle → f.type ≠ .headers ∧ f.type ≠ .pushPromise)
    (hb : p.b.transition .send f.type f.endStream now = (r, b')) (hr : r.2 = none) :
    Agree { p with b := b', toA := p.toA ++ [f] } := by
  have e := Stream.send_spec hf hb hr
  obtain ⟨c₁, r₁, p₁, d₁⟩ := hp.factsA.peer_send e
  obtain ⟨c₂, r₂, p₂, d₂⟩ := hp.factsB.send e
  -- while Idle, `b` can only send PRIORITY, which keeps it Idle
  have hidle : p.b.state = .stateIdle → f.type = .priority ∧ b'.state = .stateIdle := fun hi => by
    have hn := e.sendHalf
    rw [hi] at hn
    have ht : f.type = .priority := by
      rcases Half.next_idle_type hn with ht | ht | ht <;> simp_all
    exact ⟨ht, (e.state_of_priority ht).trans hi⟩
  refine ⟨hp.wf_toB, wf_append hp.wf_toA hf, c₁, c₂, fun h => ?_, r₁, r₂, p₂, p₁, d₁, d₂,
    fun h => ?_, fun h hb' => ?_, fun h hb' => ?_⟩
  · -- a_idle
    obtain ⟨hb₀, hB, hA⟩ := hp.a_idle h
    exact ⟨(hidle hb₀).2, hB, by simp [hA, (hidle hb₀).1]⟩
  · -- toB_half
    have ht : f.type ≠ .rstStream := by intro ht; simp [e.resetSent, ht] at h
    have h₁ : p.b.resetSent = false := (by simpa [e.resetSent] using h : _ ∧ _).1
    by_cases hb₀ : p.b.state = .stateIdle
    · simpa [e.recvHalf, ht, hb₀, openedHalf, (hidle hb₀).1] using hp.toB_half h₁
    · simpa [e.recvHalf, ht, hb₀] using hp.toB_half h₁
  · -- toA_half
    have hb₀ : p.b.state ≠ .stateIdle := fun hi => hb' (hidle hi).2
    simp [Half.run_append_single, hp.toA_half h hb₀, e.sendHalf]
  · -- opening
    obtain ⟨hb₀, hp₀⟩ := e.idle hb'
    obtain ⟨hA, hopen⟩ := hp.opening h hb₀
    exact ⟨by simp [hA, hp₀], hopen⟩

/-- Delivering the oldest frame in flight to `b` preserves `Agree`; `b` takes the frame or
    ignores it. -/
theorem agree_recvB {p : Peers} {f : Frame} {q : List Frame} {now : Int}
    {r : StreamState × Option Error} {b' : Stream} (hp : Agree p) (hq : p.toB = f :: q)
    (hg : p.b.InGrace now) (hb : p.b.transition .recv f.type f.endStream now = (r, b')) :
    (r.2 = none ∨ r.2 = some .ignoreFrame) ∧ Agree { p with b := b', toB := q } := by
  have hf : f.WellFormed := hp.wf_toB f (by simp [hq])
  have hwf : ∀ g ∈ q, g.WellFormed := fun g hg => hp.wf_toB g (by simp [hq, hg])
  have hfa := hp.factsA
  rw [hq] at hfa
  have hrr : p.b.resetReceived = true → f.type = .priority := fun h =>
    (all_priority_cons.1 (hfa.peer_resetReceived h).2).1
  have hidle : p.a.state = .stateIdle →
      p.b.state = .stateIdle ∧ f.type = .priority ∧ q.all Frame.isPriority = true ∧
        p.toA.all Frame.isPriority = true := fun h => by
    obtain ⟨h₁, h₂, h₃⟩ := hp.a_idle h
    rw [hq, all_priority_cons] at h₂
    exact ⟨h₁, h₂.1, h₂.2, h₃⟩
  cases hrs : p.b.resetSent with
  | true =>
    -- `b` has reset: everything is ignored and `b` is unchanged
    have hc := hp.b_closed hrs
    obtain ⟨hres, rfl⟩ := Stream.recv_of_resetSent hf hb hrs hc hrr hg
    obtain ⟨c₁, r₁, p₁, d₁⟩ := hfa.recv_closed hc
    refine ⟨hres, ⟨hwf, hp.wf_toA, c₁, hp.b_closed, fun h => ?_, r₁, hp.reset_toA,
      hp.a_resetReceived, p₁, d₁, hp.b_reset_delivered, by simp [hrs], hp.toA_half,
      fun _ h => by simp [hc] at h⟩⟩
    obtain ⟨h₁, -, h₃, h₄⟩ := hidle h; exact ⟨h₁, h₃, h₄⟩
  | false =>
    have hrun := hp.toB_half hrs
    rw [hq, Half.run_cons] at hrun
    obtain ⟨h, hn, hrun'⟩ := Option.bind_eq_some.1 hrun
    obtain ⟨hres, e⟩ := Stream.recv_of_half hf hb hrs hrr hg hn
    have hrs' : b'.resetSent = false := e.resetSent.trans hrs
    obtain ⟨c₁, r₁, p₁, d₁⟩ := hfa.recv e
    obtain ⟨c₂, r₂, p₂, d₂⟩ := hp.factsB.peer_recv hrs hrs'
    refine ⟨hres, ⟨hwf, hp.wf_toA, c₁, c₂, fun h => ?_, r₁, r₂, p₂, p₁, d₁, d₂,
      fun _ => by rw [e.recvHalf]; exact hrun', fun h hb' => ?_, fun h hb' => ?_⟩⟩
    · -- a_idle: `b` received PRIORITY and stays Idle
      obtain ⟨h₁, h₂, h₃, h₄⟩ := hidle h
      exact ⟨(e.state_of_priority h₂).trans h₁, h₃, h₄⟩
    · -- toA_half
      have ht : f.type ≠ .rstStream := fun ht => by
        simp [(hfa.reset_to (by simp [ht])).1] at h
      by_cases hb₀ : p.b.state = .stateIdle
      · obtain ⟨hA, hopen⟩ := hp.opening h hb₀
        have hfp : f.type ≠ .priority := fun hfp => hb' ((e.state_of_priority hfp).trans hb₀)
        rw [Half.run_of_all_priority _ hA hp.wf_toA, e.sendHalf, hopen, hq]
        simp [ht, hb₀, openedHalf, hfp]
      · rw [e.sendHalf]; simpa [ht, hb₀] using hp.toA_half h hb₀
    · -- opening
      obtain ⟨hb₀, hfp⟩ := e.idle hb'
      obtain ⟨hA, hopen⟩ := hp.opening h hb₀
      exact ⟨hA, by rw [hopen, hq]; simp [openedHalf, hfp]⟩

/-- Delivering the oldest frame in flight to `a` preserves `Agree`; `a` takes the frame or
    ignores it. -/
theorem agree_recvA {p : Peers} {f : Frame} {q : List Frame} {now : Int}
    {r : StreamState × Option Error} {a' : Stream} (hp : Agree p) (hq : p.toA = f :: q)
    (hg : p.a.InGrace now) (ha : p.a.transition .recv f.type f.endStream now = (r, a')) :
    (r.2 = none ∨ r.2 = some .ignoreFrame) ∧ Agree { p with a := a', toA := q } := by
  have hf : f.WellFormed := hp.wf_toA f (by simp [hq])
  have hwf : ∀ g ∈ q, g.WellFormed := fun g hg => hp.wf_toA g (by simp [hq, hg])
  have hfb := hp.factsB
  rw [hq] at hfb
  have hrr : p.a.resetReceived = true → f.type = .priority := fun h =>
    (all_priority_cons.1 (hfb.peer_resetReceived h).2).1
  have hidle : p.a.state = .stateIdle →
      p.b.state = .stateIdle ∧ p.toB.all Frame.isPriority = true ∧ f.type = .priority ∧
        q.all Frame.isPriority = true := fun h => by
    obtain ⟨h₁, h₂, h₃⟩ := hp.a_idle h
    rw [hq, all_priority_cons] at h₃
    exact ⟨h₁, h₂, h₃⟩
  cases hrs : p.a.resetSent with
  | true =>
    have hc := hp.a_closed hrs
    obtain ⟨hres, rfl⟩ := Stream.recv_of_resetSent hf ha hrs hc hrr hg
    obtain ⟨c₂, r₂, p₂, d₂⟩ := hfb.recv_closed hc
    exact ⟨hres, ⟨hp.wf_toB, hwf, hp.a_closed, c₂, fun h => by simp [hc] at h, hp.reset_toB, r₂,
      p₂, hp.b_resetReceived, hp.a_reset_delivered, d₂, hp.toB_half, by simp [hrs],
      by simp [hrs]⟩⟩
  | false =>
    -- the receive half of `a` admits `f`: by the opening while `b` is Idle, by `toA_half` after
    have hadm : ∃ h, Half.next p.a.state.recvHalf f = some h ∧
        (p.b.state = .stateIdle → h = p.a.state.recvHalf) ∧
        (p.b.state ≠ .stateIdle → Half.run h q = some p.b.state.sendHalf) := by
      by_cases hb₀ : p.b.state = .stateIdle
      · have hA := (hp.opening hrs hb₀).1
        rw [hq] at hA
        exact ⟨_, Half.next_priority _ (by simpa using (all_priority_cons.1 hA).1) hf,
          fun _ => rfl, fun h => absurd hb₀ h⟩
      · have hrun := hp.toA_half hrs hb₀
        rw [hq, Half.run_cons] at hrun
        obtain ⟨h, hn, hrun'⟩ := Option.bind_eq_some.1 hrun
        exact ⟨h, hn, fun h => absurd h hb₀, fun _ => hrun'⟩
    obtain ⟨h, hn, hidleB, hrun'⟩ := hadm
    obtain ⟨hres, e⟩ := Stream.recv_of_half hf ha hrs hrr hg hn
    have hrs' : a'.resetSent = false := e.resetSent.trans hrs
    obtain ⟨c₁, r₁, p₁, d₁⟩ := hp.factsA.peer_recv hrs hrs'
    obtain ⟨c₂, r₂, p₂, d₂⟩ := hfb.recv e
    refine ⟨hres, ⟨hp.wf_toB, hwf, c₁, c₂, fun h => ?_, r₁, r₂, p₂, p₁, d₁, d₂, fun h => ?_,
      fun _ hb₀ => by rw [e.recvHalf]; exact hrun' hb₀, fun _ hb₀ => ?_⟩⟩
    · -- a_idle
      obtain ⟨ha₀, -⟩ := e.idle h
      obtain ⟨h₁, h₂, -, h₄⟩ := hidle ha₀
      exact ⟨h₁, h₂, h₄⟩
    · -- toB_half
      have ht : f.type ≠ .rstStream := fun ht => by
        simp [(hfb.reset_to (by simp [ht])).1] at h
      rw [e.sendHalf]
      by_cases ha₀ : p.a.state = .stateIdle
      · obtain ⟨-, -, hfp, -⟩ := hidle ha₀
        simpa [ht, ha₀, openedHalf, hfp, StreamState.sendHalf] using hp.toB_half h
      · simpa [ht, ha₀] using hp.toB_half h
    · -- opening
      refine ⟨?_, by rw [e.recvHalf, hidleB hb₀]; exact (hp.opening hrs hb₀).2⟩
      exact all_priority_tail (hq ▸ (hp.opening hrs hb₀).1)

/-- Every step of the two endpoints preserves `Agree`. -/
theorem agree_step {p p' : Peers} (hp : Agree p) (hs : Step p p') : Agree p' := by
  cases hs with
  | sendA hf h => exact agree_sendA hp hf rfl h
  | sendB hf hI h => exact agree_sendB hp hf hI rfl h
  | recvB hq hg => exact (agree_recvB hp hq hg rfl).2
  | recvA hq hg => exact (agree_recvA hp hq hg rfl).2

theorem agree_reachable {p : Peers} (h : Reachable p) : Agree p := by
  induction h with
  | init ha hb => exact agree_init ha hb
  | step _ hs ih => exact agree_step ih hs

/-- **Two endpoints agree.** In every reachable state, delivering the oldest frame in flight
    never yields a `StreamError` or `ConnError`, and with both channels empty the two states
    are mirror images. -/
theorem peers_agree {p : Peers} (h : Reachable p) :
    (∀ f q now, p.toB = f :: q → p.b.InGrace now →
      (p.b.transition .recv f.type f.endStream now).1.2 = none ∨
        (p.b.transition .recv f.type f.endStream now).1.2 = some .ignoreFrame) ∧
    (∀ f q now, p.toA = f :: q → p.a.InGrace now →
      (p.a.transition .recv f.type f.endStream now).1.2 = none ∨
        (p.a.transition .recv f.type f.endStream now).1.2 = some .ignoreFrame) ∧
    (p.toB = [] → p.toA = [] → p.b.state = p.a.state.mirror) := by
  have hp := agree_reachable h
  refine ⟨fun f q now hq hg => (agree_recvB hp hq hg rfl).1,
    fun f q now hq hg => (agree_recvA hp hq hg rfl).1, fun hB hA => ?_⟩
  cases hrsA : p.a.resetSent
  · cases hrsB : p.b.resetSent
    · apply StreamState.eq_mirror_of_halves _ (by simpa [hB] using hp.toB_half hrsB)
      by_cases hb₀ : p.b.state = .stateIdle
      · rw [(hp.opening hrsA hb₀).2, hB, hb₀]; rfl
      · simpa [hA] using (hp.toA_half hrsA hb₀).symm
    · have hb := hp.b_closed hrsB
      have ha := (hp.b_reset_delivered hrsB).resolve_left (by simp [hA, resetLast])
      rw [ha, hb]; rfl
  · have ha := hp.a_closed hrsA
    have hb := (hp.a_reset_delivered hrsA).resolve_left (by simp [hB, resetLast])
    rw [ha, hb]; rfl

/-- A fresh `a` has sent HEADERS with END_STREAM to a fresh `b`. -/
def headersInFlight : Peers :=
  ⟨⟨1, .stateHalfClosedLocal, false, false, 0⟩, ⟨1, .stateIdle, false, false, 0⟩,
    [⟨.headers, true⟩], []⟩

/-- `peers_agree` at `headersInFlight`. -/
theorem peers_agree_headersInFlight :
    (∀ f q now, headersInFlight.toB = f :: q → headersInFlight.b.InGrace now →
      (headersInFlight.b.transition .recv f.type f.endStream now).1.2 = none ∨
        (headersInFlight.b.transition .recv f.type f.endStream now).1.2 = some .ignoreFrame) ∧
    (∀ f q now, headersInFlight.toA = f :: q → headersInFlight.a.InGrace now →
      (headersInFlight.a.transition .recv f.type f.endStream now).1.2 = none ∨
        (headersInFlight.a.transition .recv f.type f.endStream now).1.2 = some .ignoreFrame) ∧
    (headersInFlight.toB = [] → headersInFlight.toA = [] →
      headersInFlight.b.state = headersInFlight.a.state.mirror) :=
  peers_agree (.step (.init ⟨rfl, rfl, rfl⟩ ⟨rfl, rfl, rfl⟩)
    (@Step.sendA ⟨⟨1, .stateIdle, false, false, 0⟩, ⟨1, .stateIdle, false, false, 0⟩, [], []⟩
      ⟨.headers, true⟩ 0 (fun _ => .inr rfl) rfl))

end Peers

end Http2
