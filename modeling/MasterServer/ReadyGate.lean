import MasterServer.Evolution

/-!
# Ready-gating

A ready instance holds no queued request, and readiness is never withdrawn.
`REQUEST_ZONE_TRANSFER` queues only on an instance that is not ready (the guard
of `Change.enqueue`), `ReadyInstance` drains the queue as it sets the flag, and
the prestart marks freshly launched instances ready.
-/

namespace MasterServer.ReadyGate

open Relation

/-- The spec's invariant for one instance: `pendingRequests` is non-empty only when
`ready` is false. -/
def Drained (i : Instance) : Prop := i.ready = true → i.pendingRequests = []

theorem drained_pass {i i' : Instance} (h : PassChange i i') (hi : Drained i) : Drained i' := by
  cases h with
  | change h => cases h <;> simp_all [Drained]
  | count => exact hi
  | wedge => simp [Drained]

theorem ready_pass {i i' : Instance} (h : PassChange i i') (hi : i.ready = true) :
    i'.ready = true := by
  cases h with
  | change h => cases h <;> simp_all
  | count | wedge => exact hi

theorem reachable_drained {s : Master} (hs : Reachable s) : ∀ i ∈ s.instances, Drained i :=
  (Reachable.forall_instances Drained
    (fun ip prestart i hi => by
      cases prestart <;> simp [startup_instances] at hi
      rcases hi with rfl | rfl <;> exact fun _ => rfl)
    (fun i hp h => absurd h (by simp [hp.1]))
    (fun _ _ => drained_pass) hs).2

/-- The ready-gate of a state: its ready instances hold no request, and along every
run from it a ready instance stays ready and an instance whose queue grows was not
ready. -/
def ReadyGated (s : Master) : Prop :=
  (∀ i ∈ s.instances, i.ready = true → i.pendingRequests = []) ∧
    ∀ s', ReflTransGen Step s s' → ∀ i ∈ s.instances, ∀ i' ∈ s'.instances,
      i'.handle = i.handle →
        (i.ready = true → i'.ready = true) ∧
        (i.pendingRequests.length < i'.pendingRequests.length → i.ready = false)

theorem reachable_readyGated {s : Master} (hs : Reachable s) : ReadyGated s := by
  refine ⟨reachable_drained hs, fun s' hss i hi i' hi' hh => ?_⟩
  have hr := ((steps_evolves hss hs.wellFormed).2).chain_of_handle hs.wellFormed hi hi' hh
  have hready : i.ready = true → i'.ready = true := chain_preserves (fun j => j.ready = true)
    (fun _ _ => ready_pass) hr
  refine ⟨hready, fun hlt => ?_⟩
  by_contra hne
  have hd := reachable_drained (hs.steps hss) i' hi' (hready (by simpa using hne))
  simp [hd] at hlt

theorem readyGated_prestart :
    Reachable (startup "10.0.0.1" true) ∧ ReadyGated (startup "10.0.0.1" true) :=
  ⟨.startup _ _, reachable_readyGated (.startup _ _)⟩

end MasterServer.ReadyGate
