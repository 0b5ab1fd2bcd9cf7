import MasterServer.Affirmation
import MasterServer.Drain

/-!
# The registry: what enters and what leaves

Nothing in `MasterServer.cpp` sets `GetShutdownComplete`, so the reaping pass of `main`
(lines 339-348) is dead code, an instance leaves only on its own peer's disconnect, and the
drain loop of `ShutdownSequence` ends early only on an empty registry. An instance enters
on a port no instance uses (line 473), so no two registered instances share a port.
-/

namespace MasterServer.Registry

open Master

/-- No registered instance reports `shutdownComplete`. -/
def NoneComplete (s : Master) : Prop := ∀ i ∈ s.instances, i.shutdownComplete = false

/-- The ports of the registered instances, in registry order. -/
def ports (s : Master) : List Nat := s.instances.map (·.port)

/-- No two registered instances listen on one port. -/
def UniquePorts (s : Master) : Prop := (ports s).Nodup

theorem shutdownComplete_pass {i i' : Instance} (h : PassChange i i') :
    i'.shutdownComplete = i.shutdownComplete := by
  cases h with
  | change h => cases h <;> rfl
  | _ => rfl

/-- No operation of the model sets `shutdownComplete`, and a new instance starts without it. -/
theorem reachable_noneComplete {s : Master} (hs : Reachable s) : NoneComplete s :=
  (Reachable.forall_instances (fun i => i.shutdownComplete = false)
    (fun ip prestart i hi => by
      cases prestart <;> simp [startup_instances] at hi
      rcases hi with rfl | rfl <;> rfl)
    (fun _ hp => hp.2.2.2.2.2) (fun _ _ h hi => (shutdownComplete_pass h).trans hi) hs).2

theorem uniquePorts_emit {s : Master} (hp : UniquePorts s) (es : List Effect) :
    UniquePorts (s.emit es) := hp

theorem uniquePorts_modify {s : Master} (hp : UniquePorts s) (h : Nat) {f : Instance → Instance}
    (hf : ∀ j, (f j).port = j.port) : UniquePorts (s.modify h f) := by
  have : ports (s.modify h f) = ports s := by
    simp only [ports, modify_instances, List.map_map]
    exact List.map_congr_left fun i _ => by
      show (if i.handle = h then f i else i).port = i.port
      split
      exacts [hf i, rfl]
  rwa [UniquePorts, this]

/-- An instance registered on a port no instance uses keeps the ports apart. -/
theorem uniquePorts_addInstance {s : Master} (hp : UniquePorts s) {mk : Nat → Instance}
    (hmk : isPortInUse s (mk s.nextHandle).port = false) : UniquePorts (s.addInstance mk) := by
  rw [UniquePorts, ports, addInstance_instances, List.map_append, List.map_singleton]
  refine hp.append (List.nodup_singleton _) fun p hp hq => ?_
  obtain ⟨i, hi, rfl⟩ := List.mem_map.mp hp
  have : isPortInUse s (mk s.nextHandle).port = true :=
    List.any_eq_true.mpr ⟨i, hi, beq_iff_eq.mpr (List.mem_singleton.mp hq)⟩
  exact Bool.false_ne_true (hmk.symm.trans this)

theorem uniquePorts_removeInstance {s : Master} (hp : UniquePorts s) (h : Nat) :
    UniquePorts (s.removeInstance h) :=
  ((List.filter_sublist _).map _).nodup hp

/-- The instance manager's port is one above every port in use. -/
theorem isPortInUse_getFreePort (s : Master) : isPortInUse s (getFreePort s) = false :=
  List.any_eq_false.mpr fun i hi h => by
    have hle : i.port ≤ (s.instances.map (·.port)).foldr max 0 :=
      le_foldr_max (List.mem_map_of_mem (·.port) hi)
    have heq : i.port = getFreePort s := beq_iff_eq.mp h
    rw [getFreePort] at heq
    omega

/-- Every act keeps the ports apart: the instance manager launches on a free port,
`SERVER_INFO` registers a world only on a port not in use, and no act rewrites a port. -/
theorem uniquePorts_act {src : Source} {tk dr : Multiset TransferRequest} {s t : Master}
    (h : Act src tk dr s t) (hp : UniquePorts s) : UniquePorts t := by
  cases h with
  | launch =>
    refine uniquePorts_emit (uniquePorts_addInstance hp ?_) _
    exact isPortInUse_getFreePort s
  | registerWorld _ _ _ _ _ hfree => exact uniquePorts_addInstance hp hfree
  | removePeer => exact uniquePorts_removeInstance hp _
  | enqueue | setSysAddr | changePlayers | setShuttingDown | requestAffirmation | affirmTransfer =>
    refine uniquePorts_modify hp _ ?_
    exact fun _ => rfl
  | readyInstance =>
    rw [readyInstance_eq]
    refine uniquePorts_modify hp _ ?_
    exact fun _ => rfl
  | setSessionKey s k u =>
    obtain ⟨_, e, -⟩ := setSessionKey_frame s k.toNat u
    rw [e]
    exact hp
  | _ => exact hp

theorem uniquePorts_checkAffirmation {s : Master} (hp : UniquePorts s) (h : Nat) :
    UniquePorts (checkAffirmation s h).1 := by
  unfold checkAffirmation redirectPendingRequests
  split
  · exact hp
  · dsimp only
    split
    · refine (redirect_acts _ _ _ fun _ h => h).preserves uniquePorts_act ?_
      refine uniquePorts_modify (uniquePorts_modify (uniquePorts_modify hp _ ?_) _ ?_) _ ?_ <;>
        exact fun _ => rfl
    · refine uniquePorts_modify hp _ ?_
      exact fun _ => rfl

theorem uniquePorts_of_step {s s' : Master} (hst : Step s s') (hp : UniquePorts s) :
    UniquePorts s' := by
  cases hst with
  | dispatch p => exact handlePacket_preserves uniquePorts_act hp p
  | countdown => unfold countdown; split <;> exact hp
  | check h => exact uniquePorts_checkAffirmation hp h
  | reap h =>
    unfold reapInstance
    repeat' split
    all_goals first | exact uniquePorts_removeInstance hp _ | exact hp
  | shutdownInstances => exact hp

theorem uniquePorts_startup (externalIP : String) (prestart : Bool) :
    UniquePorts (startup externalIP prestart) := by
  rw [UniquePorts, ports, startup_instances]
  cases prestart <;> simp [newInstance]

/-- No case of the master `switch` takes a handle out of the registry. -/
theorem handleMasterMessage_keeps (s : Master) (addr : SysAddr) (m : MasterMessage) :
    Affirmation.Keeps s (handleMasterMessage s addr m) :=
  (handleMasterMessage_acts s addr m).lift Affirmation.Keeps.refl (fun h₁ h₂ => h₁.trans h₂)
    fun h => Affirmation.keeps_of_act h (by intro _ h; cases h)

theorem dropPeer_instances (s : Master) (addr : SysAddr) :
    (dropPeer s addr).instances = (removePeerInstance s addr).instances := by
  unfold dropPeer restartChatServer
  split <;> rfl

/-- A transport event that takes a registered instance out of the registry is a disconnect
or a lost connection from an address at which it is the first instance registered. -/
theorem handleNotification_removes {s : Master} (hw : WellFormed s) {i : Instance}
    (hi : i ∈ s.instances) (addr : SysAddr) (n : Option Notification)
    (hgone : ∀ i' ∈ (handleNotification s addr n).instances, i'.handle ≠ i.handle) :
    n ≠ none ∧ getInstanceBySysAddr s addr = some i := by
  rcases n with _ | n
  · exact absurd rfl (hgone i hi)
  refine ⟨Option.some_ne_none n, ?_⟩
  have hd : ∀ i' ∈ (removePeerInstance s addr).instances, i'.handle ≠ i.handle := by
    rw [← dropPeer_instances]
    cases n <;> exact hgone
  unfold removePeerInstance at hd
  split at hd
  · rename_i j hj
    by_cases hji : j.handle = i.handle
    · rw [hj, hw.eq_of_handle hi (List.mem_of_find?_eq_some hj) hji]
    · exact absurd rfl (hd i (List.mem_filter.mpr ⟨hi, by simpa using Ne.symm hji⟩))
  · exact absurd rfl (hd i hi)

theorem reapInstance_eq_self {s : Master} (hn : NoneComplete s) (h : Nat) :
    reapInstance s h = s := by
  unfold reapInstance
  split
  · rename_i i hi
    rw [hn i (get?_mem hi).1]
    rfl
  · rfl

theorem reapPass_eq_self {s : Master} (hn : NoneComplete s) : ∀ l, reapPass s l = s
  | [] => rfl
  | h :: l => by
    show reapPass (reapInstance s h) l = s
    rw [reapInstance_eq_self hn h]
    exact reapPass_eq_self hn l

/-- **The reaping pass is dead code.** No instance of a reachable state reports
`shutdownComplete`, so the reaping pass over any snapshot returns the state unchanged. -/
theorem reachable_reapPass {s : Master} (hs : Reachable s) (instances : List Nat) :
    (∀ i ∈ s.instances, i.shutdownComplete = false) ∧ reapPass s instances = s :=
  ⟨reachable_noneComplete hs, reapPass_eq_self (reachable_noneComplete hs) instances⟩

/-- A world registered from its address, which has then answered `SHUTDOWN` from there,
is still not reaped. -/
theorem reapPass_after_shutdownResponse :
    let s₁ : Master :=
      handlePacket (startup "" false) ⟨⟨5, 5⟩, none, some (.serverInfo 3000 1200 7 .world "")⟩
    let s : Master := handlePacket s₁ ⟨⟨5, 5⟩, none, some .shutdownResponse⟩
    (∀ i ∈ s.instances, i.shutdownComplete = false) ∧
      reapPass s (s.instances.map (·.handle)) = s :=
  reachable_reapPass (.step (.step (.startup _ _) (.dispatch _ _)) (.dispatch _ _)) _

/-- **Instances leave only by disconnecting.** From every reachable state, a step that takes
a registered instance out of the registry handles a packet carrying a disconnect or a lost
connection from the instance's own address, at which it is the first instance registered. -/
theorem step_removes_only_disconnected {s s' : Master} (hs : Reachable s) (hst : Step s s')
    {i : Instance} (hi : i ∈ s.instances)
    (hgone : ∀ i' ∈ s'.instances, i'.handle ≠ i.handle) :
    ∃ p : Packet, s' = handlePacket s p ∧ p.notification ≠ none ∧
      p.systemAddress = i.sysAddr ∧ getInstanceBySysAddr s i.sysAddr = some i := by
  have kept : ∀ {t : Master}, Affirmation.Keeps s t →
      (∀ i' ∈ t.instances, i'.handle ≠ i.handle) → False :=
    fun hk hg => let ⟨j, hj, hji⟩ := hk i hi; hg j hj hji
  cases hst with
  | dispatch p =>
    have hn : ∀ i' ∈ (handleNotification s p.systemAddress p.notification).instances,
        i'.handle ≠ i.handle := by
      unfold handlePacket at hgone
      split at hgone
      · exact fun j hj hji =>
          let ⟨k, hk, hkj⟩ := handleMasterMessage_keeps _ _ _ j hj
          hgone k hk (hkj.trans hji)
      · exact hgone
    obtain ⟨hsome, hfind⟩ := handleNotification_removes hs.wellFormed hi _ _ hn
    have haddr : i.sysAddr = p.systemAddress := by simpa using List.find?_some hfind
    exact ⟨p, rfl, hsome, haddr.symm, haddr ▸ hfind⟩
  | countdown =>
    refine (kept (fun i hi => ⟨i, ?_, rfl⟩) hgone).elim
    unfold countdown; split <;> exact hi
  | check h =>
    cases hg : s.get? h with
    | none => exact (kept (by unfold checkAffirmation; rw [hg]; exact .refl s) hgone).elim
    | some j => exact (kept (Affirmation.checkAffirmation_keeps hg) hgone).elim
  | reap h =>
    rw [reapInstance_eq_self (reachable_noneComplete hs) h] at hgone
    exact (hgone i hi rfl).elim
  | shutdownInstances => exact (kept (.refl s) hgone).elim

/-- The world of map 1200 registered from its address leaves when that connection is lost. -/
theorem world_removed_by_connection_lost :
    let s : Master :=
      handlePacket (startup "" false) ⟨⟨5, 5⟩, none, some (.serverInfo 3000 1200 7 .world "")⟩
    let i : Instance := { newInstance 0 "" 3000 1200 7 0 12 12 with sysAddr := ⟨5, 5⟩ }
    let p : Packet := ⟨⟨5, 5⟩, some .connectionLost, none⟩
    ∃ q : Packet, handlePacket s p = handlePacket s q ∧ q.notification ≠ none ∧
      q.systemAddress = i.sysAddr ∧ getInstanceBySysAddr s i.sysAddr = some i :=
  step_removes_only_disconnected (.step (.startup "" false) (.dispatch _ _)) (.dispatch _ _)
    (by decide) (by decide)

theorem allShutdownComplete_iff {s : Master} (hn : NoneComplete s) :
    allShutdownComplete s = true ↔ s.instances = [] := by
  unfold allShutdownComplete
  cases h : s.instances with
  | nil => simp
  | cons i is => simp [hn i (h ▸ List.mem_cons_self _ _)]

/-- From a reachable state the drain loop stops before its fuel runs out only on an empty
registry: when instances remain at its end, it handled every receive. -/
theorem drainLoop_of_remaining (σ : Nat → Option Packet) :
    ∀ (fuel ticks : Nat) {s : Master}, Reachable s →
      (drainLoop σ ticks s fuel).instances ≠ [] →
        drainLoop σ ticks s fuel = (List.range' ticks fuel).foldl (fun s k => dispatch s (σ k)) s
  | 0, _, _, _, _ => rfl
  | fuel + 1, ticks, s, hs, hne => by
    have hs' : Reachable (dispatch s (σ ticks)) := by
      cases σ ticks
      exacts [hs, .step hs (.dispatch _ _)]
    simp only [drainLoop] at hne ⊢
    rw [List.range'_succ, List.foldl_cons]
    split at hne
    · exact absurd ((allShutdownComplete_iff (reachable_noneComplete hs')).mp ‹_›) hne
    · rw [if_neg ‹_›]
      exact drainLoop_of_remaining σ fuel (ticks + 1) hs' hne

/-- **The drain waits for every world.** When a world is still registered as
`FinalizeShutdown` runs after a shutdown started from a reachable state, the drain loop
has handled all 3600 receives: it ran to its 60-second timeout. -/
theorem shutdownSequence_full_drain {s : Master} (hs : Reachable s) (σ : Nat → Option Packet)
    (hne : (shutdownSequence s σ).instances ≠ []) :
    shutdownSequence s σ =
      (List.range 3600).foldl (fun s k => dispatch s (σ k)) (shutdownInstances s) := by
  rw [List.range_eq_range']
  exact drainLoop_of_remaining σ 3600 0 (.step hs (.shutdownInstances s)) hne

/-- With nothing received after a prestart, both worlds remain and the drain runs to its
timeout. -/
theorem full_drain_after_prestart :
    let σ : Nat → Option Packet := fun _ => none
    shutdownSequence (startup "" true) σ =
      (List.range 3600).foldl (fun s k => dispatch s (σ k))
        (shutdownInstances (startup "" true)) :=
  shutdownSequence_full_drain (.startup "" true) _ (by
    rw [shutdownSequence, Drain.drainLoop_of_idle _ _ _ _ fun _ _ => rfl]
    simp [shutdownInstances, startup_instances])

/-- **No two worlds on one port.** In every reachable state the ports of the registered
instances are pairwise distinct: the instance manager launches a world one port above
every port in use, and `SERVER_INFO` registers a world only on a port not in use. -/
theorem reachable_ports_nodup {s : Master} (hs : Reachable s) :
    (s.instances.map (·.port)).Nodup := by
  induction hs with
  | startup ip prestart => exact uniquePorts_startup ip prestart
  | step _ hst ih => exact uniquePorts_of_step hst ih

/-- A world announcing port 1, which a prestarted world holds, is not registered beside it. -/
theorem ports_nodup_after_taken_port :
    let s : Master :=
      handlePacket (startup "" true) ⟨⟨5, 5⟩, none, some (.serverInfo 1 7 7 .world "")⟩
    s.instances.map (·.port) = [1, 2] ∧ (s.instances.map (·.port)).Nodup :=
  ⟨by decide, reachable_ports_nodup (.step (.startup _ _) (.dispatch _ _))⟩

end MasterServer.Registry
