import MasterServer.ControlLoop

/-!
# The transport queue

`Game::server->Receive()` (line 271) is called once per iteration of the loop and
returns one packet, so a message waits behind every message queued before it,
whichever peer sent them: with `n` messages ahead of it when an iteration begins,
it is handled `n` iterations later, and the timeout passes of those iterations
run without it.
-/

namespace MasterServer.Transport

/-- Modelled from the spec (§4.A, §5 ordering guarantees): the transport's receive
queue at the start of iteration `n` of the loop. `arrivals 0` arrived before the loop
started and `arrivals (n + 1)` during iteration `n`, in any interleaving of the peers;
each `Receive` takes the head. -/
def queue (arrivals : Nat → List Packet) : Nat → List Packet
  | 0 => arrivals 0
  | n + 1 => (queue arrivals n).tail ++ arrivals (n + 1)

/-- What the `n`-th `Receive` returns. -/
def received (arrivals : Nat → List Packet) (n : Nat) : Option Packet := (queue arrivals n).head?

/-- One iteration moves every queued message one place forward. -/
theorem queue_succ_getElem? {arrivals : Nat → List Packet} {t n : Nat} {p : Packet}
    (h : (queue arrivals t)[n + 1]? = some p) : (queue arrivals (t + 1))[n]? = some p := by
  have ht : (queue arrivals t).tail[n]? = some p := by rw [List.getElem?_tail]; exact h
  rw [queue, List.getElem?_append_left (List.getElem?_eq_some_iff.mp ht).1, ht]

/-- A message with `n` messages ahead of it when iteration `t` begins keeps its place in
the queue, one step forward per iteration, and is the packet the loop handles in
iteration `t + n`. -/
theorem dispatched_after_backlog (s0 : Master) (arrivals : Nat → List Packet) (t n : Nat)
    (p : Packet) (h : (queue arrivals t)[n]? = some p) :
    (∀ k ≤ n, (queue arrivals (t + k))[n - k]? = some p) ∧
      trace s0 (received arrivals) (t + n + 1) =
        ((trace s0 (received arrivals) (t + n)).step (some p)).1 := by
  have hk : ∀ k ≤ n, (queue arrivals (t + k))[n - k]? = some p := by
    intro k
    induction k with
    | zero => intro _; simpa using h
    | succ k ih =>
      intro hkn
      have := ih (by omega)
      rw [show n - k = n - (k + 1) + 1 by omega] at this
      exact queue_succ_getElem? this
  refine ⟨hk, ?_⟩
  have hr : received arrivals (t + n) = some p := by
    simpa [received, List.head?_eq_getElem?] using hk n le_rfl
  rw [trace_succ, hr]

/-- After a prestart the world of instance 0 announces itself, a client asks for map 0,
and the world's affirmation arrives behind another peer's request. -/
def backlogArrivals : Nat → List Packet
  | 0 => [⟨⟨5, 5⟩, none, some (.serverInfo 1 0 1 .world "10.0.0.2")⟩]
  | 1 => [⟨⟨7, 7⟩, none, some (.requestZoneTransfer 9 0 0 0)⟩]
  | 2 => [⟨⟨8, 8⟩, none, some (.requestPersistentID 3)⟩,
      ⟨⟨5, 5⟩, none, some (.affirmTransferResponse 9)⟩]
  | _ => []

/-- The affirmation is queued when iteration 2 begins, yet that iteration's timeout pass
still finds the transfer pending, and the affirmation is still queued after it. -/
theorem affirmation_waits_behind_backlog :
    queue backlogArrivals 2 = [⟨⟨8, 8⟩, none, some (.requestPersistentID 3)⟩,
        ⟨⟨5, 5⟩, none, some (.affirmTransferResponse 9)⟩] ∧
      ⟨0, [⟨9, false, ⟨7, 7⟩⟩], false⟩ ∈
        passes (startup "10.0.0.1" true) (received backlogArrivals) 2 ∧
      queue backlogArrivals 3 = [⟨⟨5, 5⟩, none, some (.affirmTransferResponse 9)⟩] := by
  decide

theorem dispatched_after_backlog_affirmation :
    (queue backlogArrivals 2)[1]? = some ⟨⟨5, 5⟩, none, some (.affirmTransferResponse 9)⟩ ∧
      ((∀ k ≤ 1, (queue backlogArrivals (2 + k))[1 - k]? =
          some ⟨⟨5, 5⟩, none, some (.affirmTransferResponse 9)⟩) ∧
        trace (startup "10.0.0.1" true) (received backlogArrivals) (2 + 1 + 1) =
          ((trace (startup "10.0.0.1" true) (received backlogArrivals) (2 + 1)).step
            (some ⟨⟨5, 5⟩, none, some (.affirmTransferResponse 9)⟩)).1) :=
  ⟨by decide, dispatched_after_backlog _ _ 2 1 _ (by decide)⟩

end MasterServer.Transport
