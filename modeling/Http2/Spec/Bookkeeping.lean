import Mathlib.Data.Fintype.Card
import Http2.Native.Stream

/-!
# Stream lifecycle bookkeeping

`compareAndSwapState` counts the active streams of each side, sets up a stream's flow
controllers when it starts, and stamps, cancels and removes it when it closes. States only
move forward, idle < reserved < active < closed (`transition_rank_le`), so a stream crosses
each boundary at most once and the bookkeeping is exact over any run; the `uint32` counters
do not wrap, as streams of one parity number at most `2 ^ 31` (`countP_local_le`).

## Key results

- `conn_bookkeeping`: in every reachable connection the books are exact (`Books`), and every
  call acts on its stream as `StepBooks` says.
-/

namespace Http2

namespace StreamState

/-- Position in the lifecycle: idle, reserved, active, closed. -/
def rank : StreamState → Nat
  | stateIdle => 0
  | stateReservedLocal | stateReservedRemote => 1
  | stateOpen | stateHalfClosedLocal | stateHalfClosedRemote => 2
  | stateClosed => 3

@[simp] theorem idleOrReserved_iff_rank (st : StreamState) :
    st.idleOrReserved = true ↔ st.rank ≤ 1 := by cases st <;> decide

@[simp] theorem active_iff_rank (st : StreamState) : st.active = true ↔ st.rank = 2 := by
  cases st <;> decide

theorem eq_closed_iff_rank (st : StreamState) : st = .stateClosed ↔ st.rank = 3 := by
  cases st <;> decide

theorem rank_le_three (st : StreamState) : st.rank ≤ 3 := by cases st <;> decide

end StreamState

namespace Dir

theorem recvTo_rank_le {st st' : StreamState} {t : FrameType} (h : recvTo st t = some st') :
    st.rank ≤ st'.rank := by
  unfold recvTo at h; split at h <;> cases h <;> decide

theorem sendTo_rank_le {st st' : StreamState} {t : FrameType} (h : sendTo st t = some st') :
    st.rank ≤ st'.rank := by
  unfold sendTo at h; split at h <;> cases h <;> decide

theorem endStreamTo_rank_le (d : Dir) (st : StreamState) : st.rank ≤ (d.endStreamTo st).rank := by
  cases st <;> cases d <;> decide

/-- The transition table only moves a stream forward in its lifecycle. -/
theorem transition_rank_le {d : Dir} {st st' : StreamState} {t : FrameType} {es : Bool}
    (h : d.transition st t es = some st') : st.rank ≤ st'.rank := by
  obtain ⟨s, hs, rfl⟩ := Option.map_eq_some'.1 h
  have : st.rank ≤ s.rank := by
    cases d
    exacts [recvTo_rank_le hs, sendTo_rank_le hs]
  split_ifs
  exacts [this.trans (endStreamTo_rank_le d s), this]

end Dir

/-! ## Parity of stream ids -/

theorem and_one_eq_zero (x : UInt32) : (x &&& 1 == 0) = decide (x.toNat % 2 = 0) := by
  have h : (x &&& 1).toNat = x.toNat % 2 := by simp [Nat.and_one_is_mod]
  by_cases hx : x.toNat % 2 = 0
  · have : x &&& 1 = 0 := UInt32.toNat.inj (by simp [h, hx])
    simp [this, hx]
  · have : x &&& 1 ≠ 0 := fun h0 => hx (by rw [← h, h0]; rfl)
    simp [this, hx]

/-- Streams with distinct ids on one side of `localStreamID` number at most `2 ^ 31`. -/
theorem countP_local_le (server b : Bool) {l : List Stream} (hl : (l.map Stream.id).Nodup) :
    l.countP (fun s => localStreamID server s.id == b) ≤ 2 ^ 31 := by
  let g : UInt32 → Fin (2 ^ 31) := fun x => ⟨x.toNat / 2, by have : x.toNat < 2 ^ 32 := x.toNat_lt_size; omega⟩
  set L := (l.filter fun s => localStreamID server s.id == b).map Stream.id
  have hL : L.Nodup := hl.sublist ((List.filter_sublist _).map _)
  have hpar : ∀ x ∈ L, localStreamID server x = b := by
    intro x hx
    obtain ⟨s, hs, rfl⟩ := List.mem_map.1 hx
    simpa using (List.mem_filter.1 hs).2
  have hinj : ∀ x ∈ L, ∀ y ∈ L, g x = g y → x = y := by
    intro x hx y hy hxy
    have hx' := hpar x hx
    have hy' := hpar y hy
    simp only [localStreamID, and_one_eq_zero] at hx' hy'
    have hq : x.toNat / 2 = y.toNat / 2 := congrArg Fin.val hxy
    apply UInt32.toNat.inj
    cases server <;> cases b <;> simp at hx' hy' <;> omega
  calc l.countP (fun s => localStreamID server s.id == b)
      = L.length := by simp [L, List.countP_eq_length_filter]
    _ = (L.map g).length := (List.length_map _ _).symm
    _ ≤ Fintype.card (Fin (2 ^ 31)) := (hL.map_on hinj).length_le_card
    _ = 2 ^ 31 := Fintype.card_fin _

/-! ## Lists under `set` -/

/-- Replacing the element at `i` by itself changes nothing. -/
theorem List.set_of_getElem? {α : Type} {l : List α} {i : Nat} {a : α} (h : l[i]? = some a) :
    l.set i a = l :=
  List.ext_getElem? fun j => by
    rw [List.getElem?_set]
    split_ifs with hij hi <;> subst_vars <;> simp_all [List.getElem?_eq_some_iff]

/-- `countP_set` with the subtraction moved across: the count after replacing `a` by `b`. -/
theorem List.countP_set_add {α : Type} (p : α → Bool) {l : List α} {i : Nat} {a : α} (b : α)
    (h : l[i]? = some a) :
    (l.set i b).countP p + (if p a then 1 else 0) = l.countP p + (if p b then 1 else 0) := by
  obtain ⟨hi, rfl⟩ := List.getElem?_eq_some_iff.1 h
  have : (if p l[i] then 1 else 0) ≤ l.countP p := by
    split_ifs with hp
    · exact List.countP_pos_iff.2 ⟨_, List.getElem_mem hi, hp⟩
    · exact Nat.zero_le _
  rw [List.countP_set p l i b hi]
  omega

/-- In a list with distinct keys, an element of `l.set i b` is `b` or an element of `l` whose
    key differs from that of the element it replaced. -/
theorem List.mem_set_of_nodup {α β : Type} {f : α → β} {l : List α} {i : Nat} {a b x : α}
    (hl : (l.map f).Nodup) (h : l[i]? = some a) (hx : x ∈ l.set i b) :
    x = b ∨ (x ∈ l ∧ f x ≠ f a) := by
  obtain ⟨j, hj⟩ := List.mem_iff_getElem?.1 hx
  rw [List.getElem?_set] at hj
  split_ifs at hj with hij hi
  · exact .inl (Option.some.inj hj).symm
  · refine .inr ⟨List.getElem?_mem hj, fun hf => hij ?_⟩
    have hi : i < (l.map f).length := by simpa using (List.getElem?_eq_some_iff.1 h).1
    exact List.getElem?_inj hi hl (by simp [List.getElem?_map, h, hj, hf])

theorem List.count_map_mk {α β : Type} [DecidableEq α] [DecidableEq β] (l : List β) (a a' : α)
    (k : β) : (l.map (Prod.mk a)).count (a', k) = if a' = a then l.count k else 0 := by
  induction l with
  | nil => simp
  | cons x l ih => by_cases h : a' = a <;> by_cases hk : x = k <;> simp_all [List.count_cons]

namespace Conn

/-- Locally initiated streams of the set in an active state. -/
def localActive (c : Conn) : Nat :=
  c.streams.countP fun s => localStreamID c.server s.id && s.state.active

/-- Peer-initiated streams of the set in an active state. -/
def remoteActive (c : Conn) : Nat :=
  c.streams.countP fun s => !localStreamID c.server s.id && s.state.active


/-- How often the call `k` has been made for stream `id`. -/
def callCount (c : Conn) (id : UInt32) (k : ConnCall) : Nat := c.calls.count (id, k)

@[simp] theorem callCount_streams (c : Conn) (l : List Stream) (id : UInt32) (k : ConnCall) :
    ({ c with streams := l } : Conn).callCount id k = c.callCount id k := rfl

@[simp] theorem swapEffects_streams (c : Conn) (id : UInt32) (st st' : StreamState) :
    (c.swapEffects id st st').streams = c.streams := by
  unfold swapEffects; split_ifs <;> rfl

@[simp] theorem swapEffects_server (c : Conn) (id : UInt32) (st st' : StreamState) :
    (c.swapEffects id st st').server = c.server := by
  unfold swapEffects; split_ifs <;> rfl

/-- A swap that changes nothing has no connection effects. -/
theorem swapEffects_self (c : Conn) (id : UInt32) (st : StreamState) : c.swapEffects id st st = c := by
  cases st <;> rfl

/-- The counter half of `swapEffects` for a forward move, modulo `2 ^ 32`: the counter of the
    stream's side plus one if it was active equals the old counter plus one if it is now. -/
theorem swapEffects_counters (c : Conn) (id : UInt32) {st st' : StreamState}
    (h : st.rank ≤ st'.rank) :
    ((c.swapEffects id st st').numStreams.toNat +
        if localStreamID c.server id ∧ st.rank = 2 then 1 else 0) % 2 ^ 32 =
      (c.numStreams.toNat + if localStreamID c.server id ∧ st'.rank = 2 then 1 else 0) %
        2 ^ 32 ∧
    ((c.swapEffects id st st').remoteNumStreams.toNat +
        if !localStreamID c.server id ∧ st.rank = 2 then 1 else 0) % 2 ^ 32 =
      (c.remoteNumStreams.toNat + if !localStreamID c.server id ∧ st'.rank = 2 then 1 else 0) %
        2 ^ 32 := by
  have hadd : ∀ n k : UInt32, (n + k).toNat = (n.toNat + k.toNat) % 2 ^ 32 := fun n k => by
    simp only [UInt32.add_def, UInt32.toNat, BitVec.toNat_add]
  have h3 := st'.rank_le_three
  unfold swapEffects
  by_cases ha' : st'.active
  · have r' := (StreamState.active_iff_rank _).1 ha'
    by_cases hi : st.idleOrReserved
    · -- into an active state from idle or reserved: one more on the stream's side
      have r : st.rank ≠ 2 := by have := (StreamState.idleOrReserved_iff_rank _).1 hi; omega
      cases localStreamID c.server id <;>
        simp only [ha', hi, r, r', hadd, show (1 : UInt32).toNat = 1 from rfl, ↓reduceIte,
          and_false, and_true, true_and, false_and, Bool.not_false, Bool.not_true,
          Bool.false_eq_true] <;> omega
    · -- between active states: the counters stay
      have r : st.rank = 2 := by
        have := mt (StreamState.idleOrReserved_iff_rank _).2 hi; omega
      simp only [ha', hi, r, r', ↓reduceIte, Bool.false_eq_true]
      split <;> exact ⟨rfl, rfl⟩
  · have r' := mt (StreamState.active_iff_rank _).2 ha'
    by_cases hc : st' = .stateClosed
    · subst hc
      have hcl : StreamState.stateClosed.rank ≠ 2 := by decide
      by_cases ha : st.active
      · -- from an active state into Closed: one less on the stream's side
        have r := (StreamState.active_iff_rank _).1 ha
        have hs : st ≠ .stateClosed := by rintro rfl; cases ha
        cases localStreamID c.server id <;>
          simp only [ha', ha, hs, r, hcl, hadd, show (4294967295 : UInt32).toNat = 4294967295 from rfl,
            ↓reduceIte, and_false, and_true, true_and,
            false_and, Bool.not_false, Bool.not_true, Bool.false_eq_true] <;> omega
      · -- from idle, reserved or Closed into Closed: the counters stay
        have r := mt (StreamState.active_iff_rank _).2 ha
        simp only [ha', ha, r, hcl, ↓reduceIte, Bool.false_eq_true, and_false]
        split <;> exact ⟨rfl, rfl⟩
    · -- neither active nor Closed: idle or reserved, before and after
      have : st'.rank ≠ 3 := mt (StreamState.eq_closed_iff_rank _).2 hc
      simp only [ha', hc, r', show st.rank ≠ 2 by omega, ↓reduceIte, Bool.false_eq_true,
        and_false, and_self]

/-- The calls `swapEffects` appends are for its stream: the setup on a move from idle or
    reserved into an active state, `removeStream` on a move into Closed. -/
theorem swapEffects_calls (c : Conn) (id : UInt32) (st st' : StreamState) :
    ∃ l : List ConnCall, (∀ id' k, (c.swapEffects id st st').callCount id' k =
        c.callCount id' k + if id' = id then l.count k else 0) ∧
      l.count .setRecvWindow = (if st.rank ≤ 1 ∧ st'.rank = 2 then 1 else 0) ∧
      l.count .setSendWindow ≤ l.count .setRecvWindow ∧
      l.count .removeStream = if st.rank ≠ 3 ∧ st'.rank = 3 then 1 else 0 := by
  suffices ∃ l : List ConnCall, (c.swapEffects id st st').calls = c.calls ++ l.map (Prod.mk id) ∧
      l.count .setRecvWindow = (if st.rank ≤ 1 ∧ st'.rank = 2 then 1 else 0) ∧
      l.count .setSendWindow ≤ l.count .setRecvWindow ∧
      l.count .removeStream = if st.rank ≠ 3 ∧ st'.rank = 3 then 1 else 0 by
    obtain ⟨l, h, hl⟩ := this
    exact ⟨l, fun id' k => by simp [callCount, h, List.count_append, List.count_map_mk], hl⟩
  unfold swapEffects
  by_cases h₁ : st'.active <;> simp only [h₁, if_true, if_false, Bool.false_eq_true]
  · by_cases h₂ : st.idleOrReserved <;> simp only [h₂, if_true, if_false, Bool.false_eq_true]
    · refine ⟨.setRecvWindow :: if st' = .stateHalfClosedLocal then [] else [.setSendWindow],
        by split_ifs <;> rfl, ?_⟩
      simp only [StreamState.idleOrReserved_iff_rank, StreamState.active_iff_rank] at h₁ h₂
      split_ifs <;> simp_all
    · refine ⟨if st = .stateOpen ∧ st' = .stateHalfClosedLocal then [.cancelStream] else [],
        by split_ifs <;> simp, ?_⟩
      simp only [StreamState.idleOrReserved_iff_rank, StreamState.active_iff_rank] at h₁ h₂
      split_ifs <;> simp_all
      omega
  · by_cases h₃ : st' = .stateClosed
    · refine ⟨if st = .stateClosed then [] else [.cancelStream, .removeStream],
        by split_ifs <;> simp [h₃], ?_⟩
      simp only [StreamState.eq_closed_iff_rank] at h₃ ⊢
      split_ifs <;> simp_all
    · refine ⟨[], by simp [h₃], ?_⟩
      simp only [StreamState.eq_closed_iff_rank, StreamState.active_iff_rank] at h₁ h₃
      simp [h₁, h₃]

/-- One call on the `i`-th stream of the set at time `now`. -/
inductive Step (c : Conn) (i : Nat) (now : Int) : Conn → Prop
  | transition {dir : Dir} {t : FrameType} {es : Bool} {r : StreamState × Option Error}
      {c' : Conn} : c.transition i dir t es now = some (r, c') → Step c i now c'
  | close {c' : Conn} : c.close i now = some c' → Step c i now c'

/-- The connections reachable from a set of streams with distinct ids, each idle or
    reserved, by any sequence of `stream.transition` and `stream.close` calls. -/
inductive Reachable : Conn → Prop
  | init (server : Bool) (streams : List Stream) : (streams.map Stream.id).Nodup →
      (∀ s ∈ streams, s.state.idleOrReserved = true) → Reachable ⟨server, 0, 0, streams, []⟩
  | step {c c' : Conn} {i : Nat} {now : Int} : Reachable c → Step c i now c' → Reachable c'

/-- Every call swaps one stream to a state no earlier in its lifecycle, stamping `closed` on a
    move into Closed, then runs the connection half; a refusal swaps a stream to itself. -/
theorem step_cases {c c' : Conn} {i : Nat} {now : Int} (h : Step c i now c') :
    ∃ s s' : Stream, c.streams[i]? = some s ∧ s'.id = s.id ∧ s.state.rank ≤ s'.state.rank ∧
      s'.closed = (if s.state ≠ .stateClosed ∧ s'.state = .stateClosed then now else s.closed) ∧
      c' = { c with streams := c.streams.set i s' }.swapEffects s.id s.state s'.state := by
  cases h with
  | @transition dir t es r c' h =>
    obtain ⟨s, hs, h⟩ := Option.map_eq_some'.1 h
    cases ht : dir.transition s.state t es with
    | none =>
      rw [Stream.transition_of_none now ht] at h
      refine ⟨s, s, hs, rfl, le_rfl, by simp, ?_⟩
      simp only [ht, Prod.mk.injEq] at h
      rw [swapEffects_self, ← h.2]
    | some st' =>
      rw [Stream.transition_of_some now ht] at h
      refine ⟨s, (s.compareAndSwapState st' now).markReset st' dir t, hs, by simp [Stream.compareAndSwapState],
        by simpa using Dir.transition_rank_le ht, by simp [Stream.compareAndSwapState, and_comm], ?_⟩
      simp only [ht, Prod.mk.injEq] at h
      simp [← h.2]
  | close h =>
    obtain ⟨s, hs, rfl⟩ := Option.map_eq_some'.1 h
    exact ⟨s, s.close now, hs, rfl, s.state.rank_le_three,
      by simp [Stream.close, Stream.compareAndSwapState], rfl⟩

/-- The books agree with the streams: the counters count each side's active streams, the setup
    ran once for each stream that has been active, and `removeStream` once for each Closed one. -/
structure Books (c : Conn) : Prop where
  nodup : (c.streams.map Stream.id).Nodup
  numStreams : c.numStreams.toNat = c.localActive
  remoteNumStreams : c.remoteNumStreams.toNat = c.remoteActive
  setup : ∀ s ∈ c.streams, c.callCount s.id .setRecvWindow ≤ 1 ∧
    (s.state.idleOrReserved → c.callCount s.id .setRecvWindow = 0) ∧
    (s.state.active → c.callCount s.id .setRecvWindow = 1)
  sendSetup : ∀ s ∈ c.streams, c.callCount s.id .setSendWindow ≤ c.callCount s.id .setRecvWindow
  removal : ∀ s ∈ c.streams,
    c.callCount s.id .removeStream = if s.state = .stateClosed then 1 else 0

theorem books_init (server : Bool) (streams : List Stream) (hn : (streams.map Stream.id).Nodup)
    (hs : ∀ s ∈ streams, s.state.idleOrReserved = true) :
    Books ⟨server, 0, 0, streams, []⟩ := by
  have hz : ∀ s ∈ streams, s.state.rank ≤ 1 := fun s h => by simpa using hs s h
  have hc : ∀ b : UInt32 → Bool, (streams.countP fun s => b s.id && s.state.active) = 0 :=
    fun b => List.countP_eq_zero.2 fun s h => by have := hz s h; simp; omega
  refine ⟨hn, (hc _).symm, (hc fun x => !localStreamID server x).symm, fun s h => ?_,
    fun s _ => by simp [callCount], fun s h => ?_⟩ <;> have := hz s h
  · simp [callCount]; omega
  · simp [callCount, StreamState.eq_closed_iff_rank, show s.state.rank ≠ 3 by omega]

/-- A `uint32` counter stays equal to a count that moves with it, as long as the count stays
    below `2 ^ 31`: `a` and `b` are the count's contributions before and after the move. -/
theorem toNat_eq_of_mod {n n' : UInt32} {N N' a b : Nat} (hn : n.toNat = N)
    (hN : N' + a = N + b) (hmod : (n'.toNat + a) % 2 ^ 32 = (n.toNat + b) % 2 ^ 32)
    (hle : N' ≤ 2 ^ 31) : n'.toNat = N' := by
  have : n'.toNat < 2 ^ 32 := n'.toNat_lt_size
  omega

/-- A swap that moves one stream forward keeps the bookkeeping exact. -/
theorem books_swap {c : Conn} {i : Nat} {s s' : Stream} (hc : Books c)
    (hs : c.streams[i]? = some s) (hid : s'.id = s.id) (hr : s.state.rank ≤ s'.state.rank) :
    Books ({ c with streams := c.streams.set i s' }.swapEffects s.id s.state s'.state) := by
  obtain ⟨l, hcount, hrecv, hsend, hrem⟩ :=
    swapEffects_calls { c with streams := c.streams.set i s' } s.id s.state s'.state
  obtain ⟨hloc, hremote⟩ := swapEffects_counters { c with streams := c.streams.set i s' } s.id hr
  simp only [callCount_streams] at hcount
  have hsmem : s ∈ c.streams := List.getElem?_mem hs
  have hnodup : (c.streams.set i s').map Stream.id = c.streams.map Stream.id := by
    rw [List.map_set, hid]; exact List.set_of_getElem? (by simp [List.getElem?_map, hs])
  have hnodup' : ((c.streams.set i s').map Stream.id).Nodup := hnodup ▸ hc.nodup
  have hmem : ∀ t ∈ c.streams.set i s', t = s' ∨ (t ∈ c.streams ∧ t.id ≠ s.id) :=
    fun t ht => List.mem_set_of_nodup hc.nodup hs ht
  refine ⟨by simpa using hnodup', ?_, ?_, fun t ht => ?_, fun t ht => ?_, fun t ht => ?_⟩
  · have hN := List.countP_set_add (fun s => localStreamID c.server s.id && s.state.active) s' hs
    have hle := (List.countP_mono_left fun x _ (h : (localStreamID c.server x.id &&
      x.state.active) = true) => by simp_all).trans (countP_local_le c.server true hnodup')
    simp only [localActive, swapEffects_server, swapEffects_streams]
    refine toNat_eq_of_mod hc.numStreams hN ?_ hle
    simpa [hid] using hloc
  · have hN := List.countP_set_add (fun s => !localStreamID c.server s.id && s.state.active) s' hs
    have hle := (List.countP_mono_left fun x _ (h : (!localStreamID c.server x.id &&
      x.state.active) = true) => by simp_all).trans (countP_local_le c.server false hnodup')
    simp only [remoteActive, swapEffects_server, swapEffects_streams]
    refine toNat_eq_of_mod hc.remoteNumStreams hN ?_ hle
    simpa [hid] using hremote
  all_goals
    simp only [swapEffects_streams] at ht
    rcases hmem t ht with rfl | ⟨ht, hne⟩
  · obtain ⟨h1, h2, h3⟩ := hc.setup s hsmem
    simp only [hcount, hid, ↓reduceIte, hrecv]
    simp only [StreamState.idleOrReserved_iff_rank, StreamState.active_iff_rank] at h2 h3 ⊢
    split_ifs <;> omega
  · simp only [hcount, if_neg hne, add_zero]; exact hc.setup t ht
  · simp only [hcount, hid, ↓reduceIte]
    have := hc.sendSetup s hsmem
    omega
  · simp only [hcount, if_neg hne, add_zero]; exact hc.sendSetup t ht
  · simp only [hcount, hid, ↓reduceIte, hrem, hc.removal s hsmem]
    simp only [StreamState.eq_closed_iff_rank]
    have := t.state.rank_le_three
    split_ifs <;> omega
  · simp only [hcount, if_neg hne, add_zero]; exact hc.removal t ht

/-- Every reachable connection keeps exact books. -/
theorem books_reachable {c : Conn} (h : Reachable c) : Books c := by
  induction h with
  | init server streams hn hs => exact books_init server streams hn hs
  | step _ hstep ih =>
    obtain ⟨s, s', hs, hid, hr, -, rfl⟩ := step_cases hstep
    exact books_swap ih hs hid hr

/-- What one call does to its stream: it moves forward; the setup runs iff it starts, and
    `removeStream` and the `closed` stamp iff it closes; other streams' calls stay. -/
structure StepBooks (c c' : Conn) (s s' : Stream) (now : Int) : Prop where
  advances : s.state.rank ≤ s'.state.rank
  setup : c'.callCount s.id .setRecvWindow = c.callCount s.id .setRecvWindow +
    if s.state.idleOrReserved ∧ s'.state.active then 1 else 0
  removal : c'.callCount s.id .removeStream = c.callCount s.id .removeStream +
    if s.state ≠ .stateClosed ∧ s'.state = .stateClosed then 1 else 0
  closed : s'.closed = if s.state ≠ .stateClosed ∧ s'.state = .stateClosed then now else s.closed
  others : ∀ id ≠ s.id, ∀ k, c'.callCount id k = c.callCount id k

theorem step_books {c c' : Conn} {i : Nat} {now : Int} (h : Step c i now c') :
    ∃ s s', c.streams[i]? = some s ∧ c'.streams[i]? = some s' ∧ StepBooks c c' s s' now := by
  obtain ⟨s, s', hs, hid, hr, hcl, rfl⟩ := step_cases h
  obtain ⟨l, hcount, hrecv, -, hrem⟩ :=
    swapEffects_calls { c with streams := c.streams.set i s' } s.id s.state s'.state
  have hi : i < c.streams.length := (List.getElem?_eq_some_iff.1 hs).1
  refine ⟨s, s', hs, by simp [List.getElem?_set_self hi], hr, ?_, ?_, hcl, fun id hne k => ?_⟩
  · simp [hcount, hrecv]
  · simp [hcount, hrem, StreamState.eq_closed_iff_rank]
  · simp [hcount, hne]

/-- **Lifecycle bookkeeping.** In every connection reachable from distinct idle or reserved
    streams the books are exact, and every further call acts on its stream as `StepBooks` says. -/
theorem conn_bookkeeping {c : Conn} (h : Reachable c) :
    Books c ∧ ∀ {i : Nat} {now : Int} {c' : Conn}, Step c i now c' →
      ∃ s s', c.streams[i]? = some s ∧ c'.streams[i]? = some s' ∧ StepBooks c c' s s' now :=
  ⟨books_reachable h, step_books⟩

/-- A server with one idle client stream and one reserved pushed stream. -/
def pushReserved : Conn :=
  ⟨true, 0, 0, [⟨1, .stateIdle, false, false, 0⟩, ⟨2, .stateReservedLocal, false, false, 0⟩], []⟩

/-- `pushReserved` after the client opens stream 1 with HEADERS, the server sends HEADERS on
    the pushed stream 2, and stream 1 is closed at time 7. -/
def pushServed : Conn :=
  ⟨true, 1, 0, [⟨1, .stateClosed, false, false, 7⟩, ⟨2, .stateHalfClosedRemote, false, false, 0⟩],
    [(1, .setRecvWindow), (1, .setSendWindow), (2, .setRecvWindow), (2, .setSendWindow),
      (1, .cancelStream), (1, .removeStream)]⟩

theorem conn_bookkeeping_pushServed : Reachable pushServed ∧ (Books pushServed ∧
    ∀ {i : Nat} {now : Int} {c' : Conn}, Step pushServed i now c' →
      ∃ s s', pushServed.streams[i]? = some s ∧ c'.streams[i]? = some s' ∧
        StepBooks pushServed c' s s' now) :=
  have h : Reachable pushServed :=
    .step (.step (.step (.init true pushReserved.streams (by decide) (by decide))
      (@Step.transition _ 0 0 .recv .headers false _ _ rfl))
      (@Step.transition _ 1 0 .send .headers false _ _ rfl))
      (@Step.close _ 0 7 _ rfl)
  ⟨h, conn_bookkeeping h⟩

end Conn

end Http2
