import Http2.Spec.SendCredit

/-!
# What the send controller's slot does not guarantee

Credit is conserved, but a producer can wait on an empty slot while its controller's window
is positive: `updateWindow` moves `win` into the slot only if the slot is empty at that call,
and nothing moves it there after a waiting producer empties it. And `updateWindow` checks the
limit against `win` alone, so an increment can take the credit past `2 ^ 31 - 1`.

## Key results

- `credit_stranded`: a reachable state with a producer blocked beside 50 bytes of credit.
- `increment_accepted_past_limit`: an accepted increment past the limit.
-/

namespace Http2

namespace SendSys

/-- After `strandSchedule` the third producer waits on the connection's empty slot while the
    connection's window holds 50: no case of its `select` is ready. -/
theorem credit_stranded :
    ∃ sys, Reachable threeProducers sys ∧ sys.producers[2]? = some ⟨5, 100, .awaitConn 65535⟩ ∧
      sys.flow 0 = ⟨50, none⟩ ∧ ∀ pick, sys.next (.producer 2 pick) = none :=
  ⟨stranded, stranded_reachable, rfl, rfl, fun pick => by cases pick <;> rfl⟩

/-- A fresh connection, every window at 65535, with one producer asking for 10 bytes on
    stream 1. -/
def oneProducer : SendSys where
  flow _ := ⟨defaultInitialWindowSize, none⟩
  closed _ := false
  producers := [⟨1, 10, .start⟩]
  log := []

/-- The producer's flush has moved stream 1's window into its slot. -/
def flushed : SendSys := (oneProducer.runBounded [.producer 0 .window]).getD oneProducer

/-- With stream 1's 65535 in its slot, a WINDOW_UPDATE of `2 ^ 31 - 1 - 100` passes the guard,
    and the stream's credit becomes `2 ^ 31 - 1 + 65435`. -/
theorem increment_accepted_past_limit :
    Reachable oneProducer flushed ∧
      flushed.credit 1 + (maxInitialWindowSize - 100) > maxInitialWindowSize ∧
      ((flushed.flow 1).incrementWindow 1 (maxInitialWindowSize - 100)).2 = none ∧
      (flushed.next (.incrementWindow 1 (maxInitialWindowSize - 100))).map (·.credit 1) =
        some (maxInitialWindowSize + 65435) :=
  ⟨@runBounded_reachable _ _ _ [.producer 0 .window] .init rfl, by decide, rfl, by decide⟩

end SendSys

end Http2
