import MasterServer.Evolution

/-!
# Shutting down

`Instance::Shutdown` only sends `SHUTDOWN`. The flag `shuttingDown` is set by the
wedge of the timeout pass and by the world's own `SHUTDOWN_RESPONSE`; once set it
stays set, zone resolution passes the instance over, and the requests it holds
only ever leave it. `SHUTDOWN_INSTANCE` and `ShutdownSequence` send `SHUTDOWN`
and leave the instance routable.
-/

namespace MasterServer.ShuttingDown

open Master Relation

/-- The requests an instance holds, queued or awaiting affirmation. -/
def held (i : Instance) : List TransferRequest := i.pendingRequests ++ i.pendingAffirmations

/-- A step keeps `shuttingDown` and adds no request to an instance shutting down. -/
theorem retired_pass {i i' : Instance} (h : PassChange i i') (hs : i.shuttingDown = true) :
    i'.shuttingDown = true ∧ (held i').Subperm (held i) := by
  cases h with
  | change h =>
    cases h with
    | enqueue _ _ h | requestAffirmation _ h => exact absurd hs (by simp [h])
    | readyInstance => exact ⟨hs, by simpa [held] using List.perm_append_comm.subperm⟩
    | affirmTransfer => exact ⟨hs, ((List.erase_sublist _ _).append_left _).subperm⟩
    | setShuttingDown => exact ⟨rfl, .refl _⟩
    | setSysAddr | setPlayers | setReady => exact ⟨hs, .refl _⟩
  | count => exact ⟨hs, .refl _⟩
  | wedge => exact ⟨rfl, by simp [held]⟩

/-- Across work that changes instances by `PassChange`, every instance at a handle whose
instances were all shutting down is shutting down. -/
theorem shuttingDown_descends {s s' : Master} (hd : Descends PassChange s s')
    {h : Nat} (hh : h < s.nextHandle)
    (hsd : ∀ k ∈ s.instances, k.handle = h → k.shuttingDown = true) :
    ∀ j ∈ s'.instances, j.handle = h → j.shuttingDown = true := by
  intro j hj hjh
  obtain ⟨k, hk, hr⟩ := hd.2 j hj
  have hkh : k.handle = h := (PassChange.chain_handle hr).symm.trans hjh
  rcases hk with hk | ⟨-, hn⟩
  · exact chain_preserves (fun j => j.shuttingDown = true) (fun _ _ h hj => (retired_pass h hj).1)
      hr (hsd k hk hkh)
  · omega

/-- From `s` on, the instance at `i`'s handle stays shutting down and only loses
requests, and zone resolution never returns it. -/
def Retired (s : Master) (i : Instance) : Prop :=
  ∀ s', ReflTransGen Step s s' →
    (∀ i' ∈ s'.instances, i'.handle = i.handle →
        i'.shuttingDown = true ∧ (held i').Subperm (held i)) ∧
      ∀ mapID cloneID, (getInstance s' mapID cloneID).2.handle ≠ i.handle

theorem shuttingDown_retired {s : Master} (hs : Reachable s) {i : Instance}
    (hi : i ∈ s.instances) (hsd : i.shuttingDown = true) : Retired s i := by
  intro s' hss
  obtain ⟨-, hle, hd⟩ := steps_evolves hss hs.wellFormed
  have hkept : ∀ i' ∈ s'.instances, i'.handle = i.handle →
      i'.shuttingDown = true ∧ (held i').Subperm (held i) := fun i' hi' hh =>
    chain_preserves (fun j => j.shuttingDown = true ∧ (held j).Subperm (held i))
      (fun _ _ h hj => ⟨(retired_pass h hj.1).1, (retired_pass h hj.1).2.trans hj.2⟩)
      (Descends.chain_of_handle hs.wellFormed ⟨hle, hd⟩ hi hi' hh) ⟨hsd, .refl _⟩
  refine ⟨hkept, fun m c hh => ?_⟩
  rcases getInstance_cases s' m c with ⟨j, hj, hserves, heq⟩ | heq <;> rw [heq] at hh
  · simp [Instance.serves, (hkept j hj hh).1] at hserves
  · have := hs.wellFormed.2 i hi
    simp only [launchInstance_snd_handle] at hh
    omega

/-- The prestarted world of map 0 announces itself from `⟨1, 1⟩` and then answers `SHUTDOWN`
from there. -/
theorem shuttingDown_retired_after_response :
    let s₁ : Master := handlePacket (startup "10.0.0.1" true)
      ⟨⟨1, 1⟩, none, some (.serverInfo 1 0 1 .world "10.0.0.1")⟩
    let s : Master := handlePacket s₁ ⟨⟨1, 1⟩, none, some .shutdownResponse⟩
    let i : Instance := { newInstance 0 "10.0.0.1" 1 0 1 0 12 12 with
      ready := true, sysAddr := ⟨1, 1⟩, shuttingDown := true }
    Reachable s ∧ i ∈ s.instances ∧ i.shuttingDown = true ∧ Retired s i :=
  ⟨.step (.step (.startup _ _) (.dispatch _ _)) (.dispatch _ _), by decide, rfl,
    shuttingDown_retired (.step (.step (.startup _ _) (.dispatch _ _)) (.dispatch _ _))
      (by decide) rfl⟩

/-- `SHUTDOWN_INSTANCE` sends `SHUTDOWN` to the instance of map 0 and leaves it routable:
the next transfer to map 0 is passed to `RequestAffirmation` for it. -/
theorem shutdownInstance_stays_routable :
    let s₁ : Master :=
      handlePacket (startup "10.0.0.1" true) ⟨⟨7, 7⟩, none, some (.shutdownInstance 0 1)⟩
    let s₂ : Master := handlePacket s₁ ⟨⟨7, 7⟩, none, some (.requestZoneTransfer 9 0 0 0)⟩
    Reachable s₂ ∧ Effect.shutdown 0 .unassigned ∈ s₁.effects ∧
      ∃ i ∈ s₂.instances, i.handle = 0 ∧ i.shuttingDown = false ∧
        i.pendingAffirmations = [⟨9, false, ⟨7, 7⟩⟩] :=
  ⟨.step (.step (.startup _ _) (.dispatch _ _)) (.dispatch _ _), by decide, by decide⟩

end MasterServer.ShuttingDown
