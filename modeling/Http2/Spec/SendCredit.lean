import Mathlib.Algebra.Order.BigOperators.Group.List
import Mathlib.Algebra.Order.Ring.Int
import Http2.Native.SendFlow

/-!
# Send-side credit is conserved

Credit moves between a controller's window, its one-slot channel and the producers that hold
what they took from a slot; a producer holds its stream's credit from its first `select` and
the connection's from its second, and its grant is charged to both. Each step moves credit by
a fixed amount (`Producer.step_balance`), so the invariant `Inv` holds along every run in
which the peer keeps to the protocol.

## Key results

- `SendSys.inv_reachable`: the invariant along every run.
- `SendSys.send_credit_conserved`: credit is initial credit plus accepted increments minus
  grants, and each grant is logged once and in `[1, n]`.
-/

namespace Http2

namespace RemoteFlow

/-- The credit a controller holds: its window and the credit buffered in its slot. -/
def credit (c : RemoteFlow) : Int := c.win + c.winCh.getD 0

/-- The slot, when full, holds positive credit. -/
def SlotPos (c : RemoteFlow) : Prop := ∀ v, c.winCh = some v → 0 < v

theorem slot_nonneg {c : RemoteFlow} (h : c.SlotPos) : 0 ≤ c.winCh.getD 0 := by
  cases hc : c.winCh with
  | none => simp
  | some v => simpa using (h v hc).le

/-- An increment that fails the guard is refused and changes nothing. -/
theorem updateWindow_refused {c : RemoteFlow} {id : UInt32} {delta : Int} {reset : Bool}
    (h : delta > 0 ∧ maxInitialWindowSize - delta < c.win) :
    c.updateWindow id delta reset = (c, some (overflowError id)) := if_pos h

/-- An increment that passes the guard is accepted, adds `delta` to the credit and keeps the
    slot positive. -/
theorem updateWindow_accepted {c : RemoteFlow} {id : UInt32} {delta : Int} {reset : Bool}
    (h : ¬(delta > 0 ∧ maxInitialWindowSize - delta < c.win)) (hc : c.SlotPos) :
    (c.updateWindow id delta reset).2 = none ∧
      (c.updateWindow id delta reset).1.credit = c.credit + delta ∧
      (c.updateWindow id delta reset).1.SlotPos := by
  obtain ⟨w, _ | v⟩ := c <;> cases reset <;>
    simp only [updateWindow, if_neg h, credit, SlotPos, Bool.false_eq_true, ↓reduceIte,
      Option.getD_none, Option.getD_some] at hc ⊢ <;> split_ifs <;> simp_all <;> omega

/-- A refused increment would have taken the controller's credit past the limit, and leaves
    the controller as it was. -/
theorem updateWindow_refused_past_limit {c : RemoteFlow} {id : UInt32} {delta : Int}
    {reset : Bool} {e : Error} (hc : c.SlotPos) (h : (c.updateWindow id delta reset).2 = some e) :
    c.credit + delta > maxInitialWindowSize ∧ (c.updateWindow id delta reset).1 = c := by
  by_cases hg : delta > 0 ∧ maxInitialWindowSize - delta < c.win
  · have := slot_nonneg hc
    rw [updateWindow_refused hg]
    exact ⟨by unfold credit; omega, rfl⟩
  · simp [(updateWindow_accepted hg hc).1] at h

@[simp] theorem cancel_credit (c : RemoteFlow) : c.cancel.credit = c.credit := by
  obtain ⟨w, _ | v⟩ := c <;> simp [cancel, credit]

theorem cancel_slotPos (c : RemoteFlow) : c.cancel.SlotPos := by
  obtain ⟨w, _ | v⟩ := c <;> simp [cancel, SlotPos]

/-- `updateWindow` keeps the slot positive, whether it accepts or refuses. -/
theorem updateWindow_slotPos {c : RemoteFlow} (id : UInt32) (delta : Int) (reset : Bool)
    (hc : c.SlotPos) : (c.updateWindow id delta reset).1.SlotPos := by
  by_cases h : delta > 0 ∧ maxInitialWindowSize - delta < c.win
  · rw [updateWindow_refused h]; exact hc
  · exact (updateWindow_accepted h hc).2.2

/-- Taking the slot's credit `v` out of the controller. -/
theorem credit_take {c : RemoteFlow} {v : Int} (h : c.winCh = some v) :
    ({ c with winCh := none } : RemoteFlow).credit = c.credit - v := by
  simp [credit, h]

theorem slotPos_update {f : UInt32 → RemoteFlow} (hf : ∀ id, (f id).SlotPos) (i : UInt32)
    {x : RemoteFlow} (hx : x.SlotPos) (id : UInt32) : (Function.update f i x id).SlotPos := by
  rcases eq_or_ne id i with rfl | h <;> simp [*]

theorem credit_update (f : UInt32 → RemoteFlow) (i id : UInt32) (x : RemoteFlow) :
    (Function.update f i x id).credit = if id = i then x.credit else (f id).credit := by
  rcases eq_or_ne id i with rfl | h <;> simp [*]

end RemoteFlow

/-! ## What producers hold -/

namespace Alloc

/-- The credit of its stream's controller that a producer at this point holds. -/
def streamHeld : Alloc → Int
  | gotStream sw | awaitConn sw | gotConn sw _ => sw
  | returnedStream _ n => n
  | _ => 0

/-- The credit of the connection's controller that a producer at this point holds. -/
def connHeld : Alloc → Int
  | gotConn _ cw | returnedStream cw _ => cw
  | _ => 0

/-- The amounts a producer holds are positive, and what it will return is at most `n` and at
    most the connection credit it holds; a return without error is a grant in `[1, n]`. -/
def Wf (n : Int) : Alloc → Prop
  | gotStream sw | awaitConn sw => 0 < sw
  | gotConn sw cw => 0 < sw ∧ 0 < cw
  | returnedStream cw g => 0 < g ∧ g ≤ n ∧ g ≤ cw
  | done g none => 0 < g ∧ g ≤ n
  | _ => True

end Alloc

namespace Producer

/-- What producer `p` holds of the credit of stream `id`'s controller. -/
def holds (id : UInt32) (p : Producer) : Int :=
  if id = 0 then p.pc.connHeld else if id = p.stream then p.pc.streamHeld else 0

/-- The grant producer `p` returns with its next step, charged to controller `id`. -/
def grant (id : UInt32) (p : Producer) : Int :=
  match p.pc with
  | .returnedStream _ g => if id = 0 ∨ id = p.stream then g else 0
  | _ => 0

/-- A producer of a stream other than the connection's, asked for `n > 0` bytes. -/
def Wf (p : Producer) : Prop := p.stream ≠ 0 ∧ 0 < p.n ∧ p.pc.Wf p.n

theorem grant_nonneg {p : Producer} (hp : p.Wf) (id : UInt32) : 0 ≤ p.grant id := by
  obtain ⟨-, -, hpc⟩ := hp
  unfold grant
  cases h : p.pc <;> simp only [h, Alloc.Wf] at hpc ⊢ <;> (try split_ifs) <;> omega

theorem holds_nonneg {p : Producer} (hp : p.Wf) (id : UInt32) : 0 ≤ p.holds id := by
  obtain ⟨-, -, hpc⟩ := hp
  unfold holds
  cases h : p.pc <;> simp only [h, Alloc.Wf, Alloc.connHeld, Alloc.streamHeld] at hpc ⊢ <;>
    (try split_ifs) <;> omega

/-- The amount `allocateBytes` sends: `n`, cut down to `sw` and then to `cw`. -/
theorem amount_bounds {n sw cw : Int} (hn : 0 < n) (hsw : 0 < sw) (hcw : 0 < cw) :
    let g := if cw < (if sw < n then sw else n) then cw else (if sw < n then sw else n)
    0 < g ∧ g ≤ n ∧ g ≤ sw ∧ g ≤ cw := by
  intro g; simp only [g]; split_ifs <;> omega

variable {p : Producer} {flow flow' : UInt32 → RemoteFlow} {closed : UInt32 → Bool}
  {pick : Pick} {pc' : Alloc}

/-- What one step of `allocateBytes` can do: one constructor per outcome, with the guard it
    passed. -/
inductive Moves (p : Producer) (flow : UInt32 → RemoteFlow) (closed : UInt32 → Bool) :
    (UInt32 → RemoteFlow) → Alloc → Prop
  /-- `n ≤ 0`: return at once. -/
  | skip : p.pc = .start → p.n ≤ 0 → Moves p flow closed flow (.done 0 none)
  /-- Flush the stream controller. -/
  | flushStream : p.pc = .start → 0 < p.n →
      Moves p flow closed
        (Function.update flow p.stream ((flow p.stream).incrementWindow p.stream 0).1) .awaitStream
  /-- The first `select` finds the stream closed. -/
  | streamClosed : p.pc = .awaitStream → closed p.stream = true →
      Moves p flow closed flow (.done 0 (some .errStreamClosed))
  /-- The first `select` finds the connection closed. -/
  | connClosed : p.pc = .awaitStream → closed 0 = true →
      Moves p flow closed flow (.done 0 (some .errClosed))
  /-- The first `select` receives `sw` from the stream's slot. -/
  | takeStream {sw : Int} : p.pc = .awaitStream → (flow p.stream).winCh = some sw →
      Moves p flow closed (Function.update flow p.stream { flow p.stream with winCh := none })
        (.gotStream sw)
  /-- Flush the connection controller. -/
  | flushConn {sw : Int} : p.pc = .gotStream sw →
      Moves p flow closed (Function.update flow 0 ((flow 0).incrementWindow 0 0).1) (.awaitConn sw)
  /-- The second `select` finds the stream closed: cancel the connection controller. -/
  | streamClosedHolding {sw : Int} : p.pc = .awaitConn sw → closed p.stream = true →
      Moves p flow closed (Function.update flow 0 (flow 0).cancel) (.done 0 (some .errStreamClosed))
  /-- The second `select` finds the connection closed. -/
  | connClosedHolding {sw : Int} : p.pc = .awaitConn sw → closed 0 = true →
      Moves p flow closed flow (.done 0 (some .errClosed))
  /-- The second `select` receives `cw` from the connection's slot. -/
  | takeConn {sw cw : Int} : p.pc = .awaitConn sw → (flow 0).winCh = some cw →
      Moves p flow closed (Function.update flow 0 { flow 0 with winCh := none }) (.gotConn sw cw)
  /-- Settle on the amount `g` and hand the stream the rest of `sw`. -/
  | returnStream {sw cw g : Int} : p.pc = .gotConn sw cw →
      g = (if cw < (if sw < p.n then sw else p.n) then cw else (if sw < p.n then sw else p.n)) →
      Moves p flow closed
        (if g < sw then
          Function.update flow p.stream ((flow p.stream).incrementWindow p.stream (sw - g)).1
        else flow) (.returnedStream cw g)
  /-- Hand the connection the rest of `cw` and return `g`. -/
  | returnConn {cw g : Int} : p.pc = .returnedStream cw g →
      Moves p flow closed
        (if g < cw then Function.update flow 0 ((flow 0).incrementWindow 0 (cw - g)).1 else flow)
        (.done g none)

/-- Every step of `allocateBytes` is one of the `Moves`. -/
theorem step_cases (h : p.step flow closed pick = some (flow', pc')) :
    Moves p flow closed flow' pc' := by
  unfold step at h
  cases hc : p.pc <;> simp only [hc] at h
  case start =>
    split_ifs at h with hn <;> cases h
    exacts [.skip hc hn, .flushStream hc (by omega)]
  case awaitStream =>
    cases pick <;> simp only at h
    case streamClosed => split_ifs at h with hcl; cases h; exact .streamClosed hc hcl
    case connClosed => split_ifs at h with hcl; cases h; exact .connClosed hc hcl
    case window =>
      cases hw : (flow p.stream).winCh <;> simp only [hw, reduceCtorEq] at h
      cases h; exact .takeStream hc hw
  case gotStream => cases h; exact .flushConn hc
  case awaitConn =>
    cases pick <;> simp only at h
    case streamClosed => split_ifs at h with hcl; cases h; exact .streamClosedHolding hc hcl
    case connClosed => split_ifs at h with hcl; cases h; exact .connClosedHolding hc hcl
    case window =>
      cases hw : (flow 0).winCh <;> simp only [hw, reduceCtorEq] at h
      cases h; exact .takeConn hc hw
  case gotConn => cases h; exact .returnStream hc rfl
  case returnedStream => cases h; exact .returnConn hc
  case done => cases h

/-- One producer step moves credit between a controller and the producer's hands, and what
    leaves both is the grant it returns, for an open controller within the limit. -/
theorem step_balance (hp : p.Wf) (hs : ∀ id, (flow id).SlotPos)
    (h : p.step flow closed pick = some (flow', pc')) {id : UInt32}
    (hopen : closed 0 = false ∧ closed id = false)
    (hbound : (flow id).credit + p.holds id ≤ maxInitialWindowSize) :
    (flow' id).credit + { p with pc := pc' }.holds id + p.grant id =
      (flow id).credit + p.holds id := by
  obtain ⟨hne, hn, hpc⟩ := hp
  have hne' : (0 : UInt32) ≠ p.stream := Ne.symm hne
  have hslot := RemoteFlow.slot_nonneg (hs id)
  -- a flush moves no credit
  have hflush := fun i => (@RemoteFlow.updateWindow_accepted (flow i) i 0 false (by simp) (hs i)).2.1
  cases step_cases h with
  | skip _ hn' => omega
  | flushStream hc =>
    by_cases hid : id = p.stream <;>
      simp [RemoteFlow.credit_update, hid, holds, grant, hc, Alloc.connHeld, Alloc.streamHeld,
        RemoteFlow.incrementWindow, hflush]
  | streamClosed hc | connClosed hc => simp [holds, grant, hc, Alloc.connHeld, Alloc.streamHeld]
  | takeStream hc hw =>
    by_cases hid : id = p.stream <;>
      simp [RemoteFlow.credit_update, hid, holds, grant, hc, Alloc.connHeld, Alloc.streamHeld,
        RemoteFlow.credit_take hw, hne]
  | flushConn hc =>
    by_cases hid : id = 0 <;>
      simp [RemoteFlow.credit_update, hid, holds, grant, hc, Alloc.connHeld, Alloc.streamHeld,
        RemoteFlow.incrementWindow, hflush]
  | streamClosedHolding hc hcl =>
    have hid : id ≠ p.stream := by rintro rfl; simp [hopen.2] at hcl
    by_cases h0 : id = 0 <;>
      simp [RemoteFlow.credit_update, h0, hid, holds, grant, hc, Alloc.connHeld, Alloc.streamHeld]
  | connClosedHolding _ hcl => simp [hopen.1] at hcl
  | takeConn hc hw =>
    by_cases h0 : id = 0 <;>
      simp [RemoteFlow.credit_update, h0, holds, grant, hc, Alloc.connHeld, Alloc.streamHeld,
        RemoteFlow.credit_take hw]
  | @returnStream sw cw g hc hg =>
    simp only [hc, Alloc.Wf] at hpc
    obtain ⟨-, -, hgs, -⟩ := hg ▸ amount_bounds hn hpc.1 hpc.2
    by_cases hid : id = p.stream
    · subst hid
      simp only [holds, hne, if_false, if_true, hc, Alloc.streamHeld] at hbound
      split_ifs with hlt
      · have := (@RemoteFlow.updateWindow_accepted (flow p.stream) p.stream (sw - g) false
          (by unfold RemoteFlow.credit at hbound; omega) (hs _)).2.1
        simp [RemoteFlow.credit_update, holds, grant, hc, hne, Alloc.streamHeld,
          RemoteFlow.incrementWindow, this]
        omega
      · simp [holds, grant, hc, hne, Alloc.streamHeld]; omega
    · split_ifs <;>
        simp [RemoteFlow.credit_update, hid, holds, grant, hc, Alloc.connHeld, Alloc.streamHeld]
  | @returnConn cw g hc =>
    simp only [hc, Alloc.Wf] at hpc
    by_cases h0 : id = 0
    · subst h0
      simp only [holds, if_true, hc, Alloc.connHeld] at hbound
      split_ifs with hlt
      · have := (@RemoteFlow.updateWindow_accepted (flow 0) 0 (cw - g) false
          (by unfold RemoteFlow.credit at hbound; omega) (hs _)).2.1
        simp [RemoteFlow.credit_update, holds, grant, hc, Alloc.connHeld,
          RemoteFlow.incrementWindow, this]
        omega
      · simp [holds, grant, hc, Alloc.connHeld]; omega
    · split_ifs <;> by_cases hid : id = p.stream <;>
        simp [RemoteFlow.credit_update, h0, hid, hne, holds, grant, hc, Alloc.connHeld,
          Alloc.streamHeld]

/-- A producer step keeps the producer well formed and every slot positive. -/
theorem step_wf (hp : p.Wf) (hs : ∀ id, (flow id).SlotPos)
    (h : p.step flow closed pick = some (flow', pc')) :
    { p with pc := pc' }.Wf ∧ ∀ id, (flow' id).SlotPos := by
  obtain ⟨hne, hn, hpc⟩ := hp
  have hupd := fun i x (hx : RemoteFlow.SlotPos x) => RemoteFlow.slotPos_update hs i hx
  have hflush := fun i d => hupd i _ (RemoteFlow.updateWindow_slotPos i d false (hs i))
  cases step_cases h with
  | skip _ hn' => omega
  | flushStream => exact ⟨⟨hne, hn, trivial⟩, hflush _ _⟩
  | streamClosed | connClosed | connClosedHolding => exact ⟨⟨hne, hn, trivial⟩, hs⟩
  | takeStream _ hw => exact ⟨⟨hne, hn, hs _ _ hw⟩, hupd _ _ (by simp [RemoteFlow.SlotPos])⟩
  | flushConn hc =>
    simp only [hc, Alloc.Wf] at hpc
    exact ⟨⟨hne, hn, hpc⟩, hflush _ _⟩
  | streamClosedHolding => exact ⟨⟨hne, hn, trivial⟩, hupd _ _ (RemoteFlow.cancel_slotPos _)⟩
  | takeConn hc hw =>
    simp only [hc, Alloc.Wf] at hpc
    exact ⟨⟨hne, hn, hpc, hs _ _ hw⟩, hupd _ _ (by simp [RemoteFlow.SlotPos])⟩
  | returnStream hc hg =>
    simp only [hc, Alloc.Wf] at hpc
    obtain ⟨hg0, hgn, -, hgc⟩ := hg ▸ amount_bounds hn hpc.1 hpc.2
    refine ⟨⟨hne, hn, hg0, hgn, hgc⟩, ?_⟩
    split_ifs
    exacts [hflush _ _, hs]
  | returnConn hc =>
    simp only [hc, Alloc.Wf] at hpc
    refine ⟨⟨hne, hn, hpc.1, hpc.2.1⟩, ?_⟩
    split_ifs
    exacts [hflush _ _, hs]

/-- What producer `k` has returned without error, as the log records grants. -/
def returned (k : Nat) (p : Producer) : List SendEvent :=
  match p.pc with
  | .done g none => [.granted k p.stream p.n g]
  | _ => []

/-- A step logs a grant exactly when the producer returns one. -/
theorem step_returned (hp : p.Wf) (h : p.step flow closed pick = some (flow', pc')) (k : Nat) :
    p.returned k ++ p.grantEvent k = { p with pc := pc' }.returned k := by
  obtain ⟨-, hn, -⟩ := hp
  cases step_cases h with
  | skip _ hn' => omega
  | _ => simp [returned, grantEvent, *]

end Producer

/-! ## The accounting -/

namespace SendEvent

/-- The part of an accepted increment credited to controller `id`. -/
def acceptedFor (id : UInt32) : SendEvent → Int
  | accepted id' d => if id' = id then d else 0
  | granted .. => 0

/-- The part of a grant charged to controller `id`: a grant is charged to its stream's
    controller and to the connection's. -/
def grantedFor (id : UInt32) : SendEvent → Int
  | granted _ s _ g => if id = 0 ∨ id = s then g else 0
  | accepted .. => 0

/-- Whether the event is a grant to producer `k`. -/
def isGrantOf (k : Nat) : SendEvent → Bool
  | granted k' .. => k' == k
  | accepted .. => false

end SendEvent

theorem Producer.grantEvent_granted (p : Producer) (k : Nat) (id : UInt32) :
    ((p.grantEvent k).map (SendEvent.grantedFor id)).sum = p.grant id := by
  cases h : p.pc <;> simp [Producer.grantEvent, Producer.grant, h, SendEvent.grantedFor]

theorem Producer.grantEvent_accepted (p : Producer) (k : Nat) (id : UInt32) :
    ((p.grantEvent k).map (SendEvent.acceptedFor id)).sum = 0 := by
  cases h : p.pc <;> simp [Producer.grantEvent, h, SendEvent.acceptedFor]

theorem Producer.grantEvent_filter (p : Producer) (k j : Nat) :
    (p.grantEvent k).filter (·.isGrantOf j) = if k = j then p.grantEvent k else [] := by
  cases h : p.pc <;> by_cases hk : k = j <;> simp [Producer.grantEvent, h, hk, SendEvent.isGrantOf]

/-- Replacing `a` by `b` in a list changes the sum of `f` by `f b - f a`. -/
theorem List.sum_map_set_add {α : Type} (f : α → Int) {l : List α} {k : Nat} {a : α} (b : α)
    (h : l[k]? = some a) : ((l.set k b).map f).sum + f a = (l.map f).sum + f b := by
  obtain ⟨hk, rfl⟩ := List.getElem?_eq_some_iff.1 h
  rw [List.map_set, List.sum_set', dif_pos (by simpa using hk), List.getElem_map]
  omega

namespace SendSys

/-- What the producers hold of controller `id`'s credit. -/
def held (sys : SendSys) (id : UInt32) : Int := (sys.producers.map (Producer.holds id)).sum

/-- Controller `id`'s credit: its window, its slot, and what producers hold of it. -/
def credit (sys : SendSys) (id : UInt32) : Int := (sys.flow id).credit + sys.held id

/-- The increments accepted for controller `id`. -/
def accepted (sys : SendSys) (id : UInt32) : Int := (sys.log.map (·.acceptedFor id)).sum

/-- The grants charged to controller `id`. -/
def granted (sys : SendSys) (id : UInt32) : Int := (sys.log.map (·.grantedFor id)).sum

/-- Controller `id` is open: the connection is, and so is stream `id`. -/
def IsOpen (sys : SendSys) (id : UInt32) : Prop := sys.closed 0 = false ∧ sys.closed id = false

/-- The initial states: slots empty, windows within the limit, producers at the start with
    `n > 0` on a stream other than the connection, nothing logged. -/
structure Initial (s₀ : SendSys) : Prop where
  slots : ∀ id, (s₀.flow id).winCh = none
  wins : ∀ id, (s₀.flow id).win ≤ maxInitialWindowSize
  producers : ∀ p ∈ s₀.producers, p.stream ≠ 0 ∧ 0 < p.n ∧ p.pc = .start
  log : s₀.log = []

/-- The peer keeps to the protocol: every increment the reader gets accepted leaves the credit
    of its controller within `maxInitialWindowSize`. -/
def Bounded (sys sys' : SendSys) : Prop :=
  ∀ id d, sys'.log = sys.log ++ [.accepted id d] → sys'.credit id ≤ maxInitialWindowSize

/-- The states reachable from `s₀` by any interleaving of producer steps, reader calls,
    cancels and closes in which the peer keeps to the protocol. -/
inductive Reachable (s₀ : SendSys) : SendSys → Prop
  | init : Reachable s₀ s₀
  | step {sys sys' : SendSys} {a : SendAction} :
      Reachable s₀ sys → sys.next a = some sys' → Bounded sys sys' → Reachable s₀ sys'

/-- The invariant: slots and holdings positive, each grant logged once, and every open
    controller's credit accounted and within the limit. -/
structure Inv (init : UInt32 → Int) (sys : SendSys) : Prop where
  slotPos : ∀ id, (sys.flow id).SlotPos
  wf : ∀ p ∈ sys.producers, p.Wf
  grants : ∀ k p, sys.producers[k]? = some p → sys.log.filter (·.isGrantOf k) = p.returned k
  law : ∀ id, sys.IsOpen id → sys.credit id = init id + sys.accepted id - sys.granted id
  bounded : ∀ id, sys.IsOpen id → sys.credit id ≤ maxInitialWindowSize

theorem holds_le_held {sys : SendSys} (hw : ∀ p ∈ sys.producers, p.Wf) {p : Producer}
    (hp : p ∈ sys.producers) (id : UInt32) : p.holds id ≤ sys.held id :=
  List.single_le_sum (l := sys.producers.map (Producer.holds id))
    (by simpa using fun q hq => Producer.holds_nonneg (hw q hq) id) _ (List.mem_map_of_mem _ hp)

/-! ## The invariant holds along every run -/

section
variable {init : UInt32 → Int} {sys : SendSys}

theorem inv_init {s₀ : SendSys} (h : Initial s₀) : Inv s₀.credit s₀ := by
  have hheld : ∀ id, s₀.held id = 0 := fun id =>
    List.sum_eq_zero fun x hx => by
      obtain ⟨p, hp, rfl⟩ := List.mem_map.1 hx
      simp [Producer.holds, (h.producers p hp).2.2, Alloc.connHeld, Alloc.streamHeld]
  refine ⟨fun id v hv => by simp [h.slots id] at hv, fun p hp => ?_, fun k p hk => ?_,
    fun id _ => by simp [accepted, granted, h.log], fun id _ => ?_⟩
  · obtain ⟨h1, h2, h3⟩ := h.producers p hp
    exact ⟨h1, h2, by simp [h3, Alloc.Wf]⟩
  · simp [h.log, Producer.returned, (h.producers p (List.getElem?_mem hk)).2.2]
  · simpa [credit, RemoteFlow.credit, h.slots id, hheld] using h.wins id

theorem inv_producer (hinv : Inv init sys) {k : Nat} {p : Producer}
    (hk : sys.producers[k]? = some p) {pick : Pick} {flow' : UInt32 → RemoteFlow} {pc' : Alloc}
    (h : p.step sys.flow sys.closed pick = some (flow', pc')) :
    Inv init
      { sys with
        flow := flow'
        producers := sys.producers.set k { p with pc := pc' }
        log := sys.log ++ p.grantEvent k } := by
  have hp := hinv.wf p (List.getElem?_mem hk)
  obtain ⟨hwf', hslot'⟩ := Producer.step_wf hp hinv.slotPos h
  have hheld : ∀ id, ((sys.producers.set k { p with pc := pc' }).map (Producer.holds id)).sum +
      p.holds id = sys.held id + { p with pc := pc' }.holds id :=
    fun id => List.sum_map_set_add _ _ hk
  have hcredit : ∀ id, sys.IsOpen id →
      SendSys.credit
        { sys with
          flow := flow'
          producers := sys.producers.set k { p with pc := pc' }
          log := sys.log ++ p.grantEvent k } id + p.grant id = sys.credit id := fun id hopen => by
    have := Producer.step_balance hp hinv.slotPos h hopen
      ((add_le_add_left (holds_le_held hinv.wf (List.getElem?_mem hk) id) _).trans
        (hinv.bounded id hopen))
    have h2 := hheld id
    simp only [credit, held] at this h2 ⊢
    omega
  refine ⟨hslot', fun q hq => ?_, fun j q hq => ?_, fun id hopen => ?_, fun id hopen => ?_⟩
  · rcases List.mem_or_eq_of_mem_set hq with hq | rfl
    exacts [hinv.wf q hq, hwf']
  · rw [List.getElem?_set] at hq
    rw [List.filter_append, Producer.grantEvent_filter]
    by_cases hkj : k = j
    · subst hkj
      rw [if_pos rfl, if_pos (List.getElem?_eq_some_iff.1 hk).1, Option.some.injEq] at hq
      rw [if_pos rfl, hinv.grants k p hk, Producer.step_returned hp h, hq]
    · rw [if_neg hkj] at hq ⊢
      rw [List.append_nil]; exact hinv.grants j q hq
  · have := hcredit id hopen
    simp only [accepted, granted, List.map_append, List.sum_append,
      Producer.grantEvent_accepted, Producer.grantEvent_granted] at this ⊢
    have := hinv.law id hopen
    simp only [accepted, granted] at this
    omega
  · have := hcredit id hopen
    have := hinv.bounded id hopen
    have := Producer.grant_nonneg hp id
    omega

theorem inv_increment (hinv : Inv init sys) (id : UInt32) (delta : Int) (reset : Bool)
    (hb : Bounded sys (sys.applyIncrement id delta ((sys.flow id).updateWindow id delta reset))) :
    Inv init (sys.applyIncrement id delta ((sys.flow id).updateWindow id delta reset)) := by
  by_cases hg : delta > 0 ∧ maxInitialWindowSize - delta < (sys.flow id).win
  · rw [RemoteFlow.updateWindow_refused hg]
    simpa [applyIncrement] using hinv
  obtain ⟨hnone, hcr, hsp⟩ :=
    @RemoteFlow.updateWindow_accepted _ id _ reset hg (hinv.slotPos id)
  have hlog : (sys.applyIncrement id delta ((sys.flow id).updateWindow id delta reset)).log =
      sys.log ++ [.accepted id delta] := by simp [applyIncrement, hnone]
  have hcredit : ∀ id', (sys.applyIncrement id delta
      ((sys.flow id).updateWindow id delta reset)).credit id' =
      sys.credit id' + if id = id' then delta else 0 := fun id' => by
    rcases eq_or_ne id' id with rfl | hne
    · simp [credit, held, applyIncrement, hcr]; omega
    · simp [credit, held, applyIncrement, hne, Ne.symm hne]
  refine ⟨RemoteFlow.slotPos_update hinv.slotPos _ hsp, hinv.wf, fun k p hk => ?_,
    fun id' hopen => ?_, fun id' hopen => ?_⟩
  · simpa [hlog, SendEvent.isGrantOf] using hinv.grants k p hk
  · have := hinv.law id' hopen
    simp only [accepted, granted, hlog, List.map_append, List.sum_append, List.map_cons,
      List.map_nil, List.sum_cons, List.sum_nil, SendEvent.acceptedFor, SendEvent.grantedFor,
      hcredit] at this ⊢
    omega
  · rcases eq_or_ne id id' with rfl | hne
    · exact hb id delta hlog
    · rw [hcredit, if_neg hne, add_zero]; exact hinv.bounded id' hopen

theorem inv_cancel (hinv : Inv init sys) (id : UInt32) :
    Inv init { sys with flow := Function.update sys.flow id (sys.flow id).cancel } := by
  have hcredit : ∀ id', SendSys.credit
      { sys with flow := Function.update sys.flow id (sys.flow id).cancel } id' = sys.credit id' :=
    fun id' => by rcases eq_or_ne id' id with rfl | hne <;> simp [credit, held, *]
  exact ⟨RemoteFlow.slotPos_update hinv.slotPos _ (RemoteFlow.cancel_slotPos _), hinv.wf,
    hinv.grants, fun id' h => (hcredit id').trans (hinv.law id' h),
    fun id' h => (hcredit id').trans_le (hinv.bounded id' h)⟩

theorem inv_close (hinv : Inv init sys) (id : UInt32) :
    Inv init { sys with closed := Function.update sys.closed id true } := by
  have hopen : ∀ id', SendSys.IsOpen { sys with closed := Function.update sys.closed id true } id' →
      sys.IsOpen id' := fun id' ⟨h0, h1⟩ => by
    constructor <;> [rcases eq_or_ne (0 : UInt32) id with rfl | hne;
      rcases eq_or_ne id' id with rfl | hne] <;> simp_all
  exact ⟨hinv.slotPos, hinv.wf, hinv.grants, fun id' h => hinv.law id' (hopen id' h),
    fun id' h => hinv.bounded id' (hopen id' h)⟩

/-- Every step of a run keeps the invariant. -/
theorem inv_next {sys' : SendSys} {a : SendAction} (hinv : Inv init sys)
    (h : sys.next a = some sys') (hb : Bounded sys sys') : Inv init sys' := by
  cases a with
  | producer k pick =>
    simp only [next] at h
    cases hk : sys.producers[k]? with
    | none => simp [hk] at h
    | some p =>
      simp only [hk, Option.map_eq_some'] at h
      obtain ⟨⟨flow', pc'⟩, hs, rfl⟩ := h
      exact inv_producer hinv hk hs
  | incrementWindow id delta =>
    simp only [next, Option.some.injEq] at h; subst h
    exact inv_increment hinv id delta false hb
  | incrementInitialWindow id delta =>
    simp only [next, Option.some.injEq] at h; subst h
    exact inv_increment hinv id delta true hb
  | cancel id =>
    simp only [next, Option.some.injEq] at h; subst h
    exact inv_cancel hinv id
  | close id =>
    simp only [next, Option.some.injEq] at h; subst h
    exact inv_close hinv id

end

theorem inv_reachable {s₀ sys : SendSys} (h₀ : Initial s₀) (h : Reachable s₀ sys) :
    Inv s₀.credit sys := by
  induction h with
  | init => exact inv_init h₀
  | step _ hn hb ih => exact inv_next ih hn hb

/-! ## Running a schedule -/

/-- Whether action `a`, if it is an increment of the reader, left its controller's credit
    within the limit in `sys'`. -/
def keepsBound (sys' : SendSys) : SendAction → Bool
  | .incrementWindow id _ | .incrementInitialWindow id _ =>
    decide (sys'.credit id ≤ maxInitialWindowSize)
  | _ => true

/-- Run a schedule, stopping at an increment that breaks the bound. -/
def runBounded (sys : SendSys) : List SendAction → Option SendSys
  | [] => some sys
  | a :: as =>
    match sys.next a with
    | some sys' => if sys'.keepsBound a then runBounded sys' as else none
    | none => none

theorem bounded_of_keepsBound {sys sys' : SendSys} {a : SendAction} (h : sys.next a = some sys')
    (hk : sys'.keepsBound a = true) : Bounded sys sys' := by
  intro id d hlog
  cases a with
  | producer k pick =>
    simp only [next] at h
    cases hk' : sys.producers[k]? with
    | none => simp [hk'] at h
    | some p =>
      simp only [hk', Option.map_eq_some'] at h
      obtain ⟨⟨flow', pc'⟩, -, rfl⟩ := h
      have := List.append_cancel_left hlog
      cases hc : p.pc <;> simp [Producer.grantEvent, hc] at this
  | incrementWindow id' delta | incrementInitialWindow id' delta =>
    simp only [next, Option.some.injEq] at h; subst h
    simp only [applyIncrement] at hlog
    split_ifs at hlog
    · obtain ⟨rfl, -⟩ := SendEvent.accepted.inj (List.singleton_inj.1 (List.append_cancel_left hlog))
      simpa [keepsBound] using hk
    · simpa using congrArg List.length hlog
  | cancel id' | close id' =>
    simp only [next, Option.some.injEq] at h; subst h
    simpa using congrArg List.length hlog

theorem runBounded_reachable {s₀ sys sys' : SendSys} {as : List SendAction}
    (hs : Reachable s₀ sys) (h : sys.runBounded as = some sys') : Reachable s₀ sys' := by
  induction as generalizing sys with
  | nil => simp only [runBounded, Option.some.injEq] at h; exact h ▸ hs
  | cons a as ih =>
    simp only [runBounded] at h
    cases hn : sys.next a with
    | none => simp [hn] at h
    | some s₁ =>
      simp only [hn] at h
      split_ifs at h with hk
      exact ih (.step hs hn (bounded_of_keepsBound hn hk)) h

/-- **Send-side credit is conserved.** Along any run in which the peer keeps to the protocol,
    every open controller's credit is its initial credit plus the accepted increments minus its
    grants, and each grant is logged once and in `[1, n]`. -/
theorem send_credit_conserved {s₀ sys : SendSys} (h₀ : Initial s₀) (h : Reachable s₀ sys) :
    (∀ id, sys.IsOpen id → sys.credit id = s₀.credit id + sys.accepted id - sys.granted id) ∧
    ∀ k p, sys.producers[k]? = some p → sys.log.filter (·.isGrantOf k) = p.returned k ∧
      ∀ g, p.pc = .done g none → 1 ≤ g ∧ g ≤ p.n := by
  have hinv := inv_reachable h₀ h
  refine ⟨hinv.law, fun k p hk => ⟨hinv.grants k p hk, fun g hg => ?_⟩⟩
  obtain ⟨-, -, hpc⟩ := hinv.wf p (List.getElem?_mem hk)
  simp only [hg, Alloc.Wf] at hpc
  omega

/-- A fresh connection, every window at 65535: producers ask for 65535 bytes on stream 1 and
    for 100 bytes on streams 3 and 5. -/
def threeProducers : SendSys where
  flow _ := ⟨defaultInitialWindowSize, none⟩
  closed _ := false
  producers := [⟨1, 65535, .start⟩, ⟨3, 100, .start⟩, ⟨5, 100, .start⟩]
  log := []

theorem threeProducers_initial : Initial threeProducers :=
  ⟨fun _ => rfl, fun _ => (by decide : (65535 : Int) ≤ 2147483647), by decide, rfl⟩

/-- The first producer takes all the connection's credit, the others flush and wait on the
    connection, the peer sends 100 then 50 for it, and the second producer takes the 100. -/
def strandSchedule : List SendAction :=
  List.replicate 6 (.producer 0 .window) ++ List.replicate 3 (.producer 1 .window) ++
    List.replicate 3 (.producer 2 .window) ++
    [.incrementWindow 0 100, .incrementWindow 0 50, .producer 1 .window]

/-- The state `strandSchedule` ends in. -/
def stranded : SendSys := (threeProducers.runBounded strandSchedule).getD threeProducers

theorem stranded_reachable : Reachable threeProducers stranded :=
  @runBounded_reachable _ _ _ strandSchedule .init rfl

theorem send_credit_conserved_stranded :
    (∀ id, stranded.IsOpen id →
      stranded.credit id = threeProducers.credit id + stranded.accepted id - stranded.granted id) ∧
    ∀ k p, stranded.producers[k]? = some p → stranded.log.filter (·.isGrantOf k) = p.returned k ∧
      ∀ g, p.pc = .done g none → 1 ≤ g ∧ g ≤ p.n :=
  send_credit_conserved threeProducers_initial stranded_reachable

end SendSys

end Http2
