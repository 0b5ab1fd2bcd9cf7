import MasterServer.Evolution

/-!
# Instance keys

An instance is addressed by `(mapID, cloneID, instanceID)`, but `MSG_MASTER_SERVER_INFO`
(lines 452-501) decides by the port alone: a world on an unused port is appended, even under
a key already registered, and in every other case, whatever the sender's type, the first
instance with the announced key is rebound to the sender.
-/

namespace MasterServer.InstanceKeys

/-- The key of an instance. -/
def instanceKey (i : Instance) : Nat × Nat × Nat := (i.mapID, i.cloneID, i.instanceID)

/-- No two registered instances share a key. -/
def UniqueKeys (s : Master) : Prop := (s.instances.map instanceKey).Nodup

instance : DecidablePred UniqueKeys := fun _ => inferInstanceAs (Decidable (List.Nodup _))

/-- Two worlds announcing map 1200, instance 1, on the unused ports 3000 and 3001: both
are registered under the one key. -/
theorem serverInfo_registers_duplicate_key :
    let s : Master := handlePacket (startup "10.0.0.1" false)
      ⟨⟨7, 7⟩, none, some (.serverInfo 3000 1200 1 .world "10.0.0.2")⟩
    let s' : Master := handlePacket s
      ⟨⟨8, 8⟩, none, some (.serverInfo 3001 1200 1 .world "10.0.0.3")⟩
    Reachable s' ∧ s'.instances.map instanceKey = [(1200, 0, 1), (1200, 0, 1)] ∧
      ¬UniqueKeys s' :=
  ⟨.step (.step (.startup _ _) (.dispatch _ _)) (.dispatch _ _), by decide, by decide⟩

/-- Rebinding an instance keeps every key, so `FindInstance` finds the rebound copy. -/
theorem findInstance_modify_sysAddr (s : Master) (h : Nat) (a : SysAddr) (z i : Nat) :
    findInstance (s.modify h fun j => { j with sysAddr := a }) z i =
      (findInstance s z i).map fun j => if j.handle = h then { j with sysAddr := a } else j := by
  simp only [findInstance, Master.modify, List.find?_map]
  congr 2
  funext j
  simp only [Function.comp]
  split <;> rfl

/-- An instance appended to a registry is found by a key no instance had before. -/
theorem find?_append_singleton {p : Instance → Bool} {l : List Instance} {N : Instance}
    (hl : l.find? p = none) (hN : p N = true) : (l ++ [N]).find? p = some N := by
  simp [List.find?_append, hl, hN]

/-- What `MSG_MASTER_SERVER_INFO` does to the registry (lines 473-488), with the announced
zone and instance narrowed to 16 bits. A world on an unused port is appended, with the
announced key and port and the sender's address, and the lookups by that key and by
that address find it when nothing had them before. In every other case the first
instance with the announced key, if any, is rebound to the sender and nothing else
changes. -/
theorem serverInfo_registry (s : Master) (a : SysAddr) (P z i : Nat) (t : ServerType)
    (ip : String) :
    let s' : Master := serverInfo s a P z i t ip
    (t = .world ∧ isPortInUse s P = false →
      ∃ N, s'.instances = s.instances ++ [N] ∧ instanceKey N = (z % 2 ^ 16, 0, i % 2 ^ 16) ∧
        N.port = P ∧ N.sysAddr = a ∧
        (findInstance s (z % 2 ^ 16) (i % 2 ^ 16) = none →
          findInstance s' (z % 2 ^ 16) (i % 2 ^ 16) = some N) ∧
        (getInstanceBySysAddr s a = none → getInstanceBySysAddr s' a = some N)) ∧
    (¬(t = .world ∧ isPortInUse s P = false) →
      (∀ I, findInstance s (z % 2 ^ 16) (i % 2 ^ 16) = some I →
        s'.instances = s.instances.map
            (fun j => if j.handle = I.handle then { j with sysAddr := a } else j) ∧
          findInstance s' (z % 2 ^ 16) (i % 2 ^ 16) = some { I with sysAddr := a }) ∧
      (findInstance s (z % 2 ^ 16) (i % 2 ^ 16) = none → s'.instances = s.instances)) := by
  have hc : (serverInfo s a P z i t ip).instances = (registerServer s a P z i t ip).instances := by
    unfold serverInfo rememberChatServer; split <;> rfl
  refine ⟨fun hw => ?_, fun hw => ⟨fun I hI => ?_, fun hf => ?_⟩⟩
  · have hr : (serverInfo s a P z i t ip).instances = s.instances ++
        [{ newInstance s.nextHandle ip P (z % 2 ^ 16) (i % 2 ^ 16) 0 12 12 with sysAddr := a }] := by
      rw [hc, registerServer, if_pos hw]; rfl
    refine ⟨_, hr, rfl, rfl, rfl, fun hf => ?_, fun hg => ?_⟩
    · simp only [findInstance, hr]; exact find?_append_singleton hf (by simp [newInstance])
    · simp only [getInstanceBySysAddr, hr]; exact find?_append_singleton hg (by simp)
  · have hr : (serverInfo s a P z i t ip).instances =
        (s.modify I.handle fun j => { j with sysAddr := a }).instances := by
      rw [hc, registerServer, if_neg hw, hI]
    refine ⟨hr, ?_⟩
    simp only [findInstance, hr]
    rw [← findInstance, findInstance_modify_sysAddr, hI]
    simp
  · rw [hc, registerServer, if_neg hw, hf]

/-- Both branches on the prestarted registry: a world on the unused port 3000 is appended
and found by its key and address, and a chat server announcing map 0, instance 1 rebinds
the prestarted world of that key. -/
theorem serverInfo_registry_both_branches :
    let s : Master := startup "10.0.0.1" true
    let I : Instance := { newInstance 0 "10.0.0.1" 1 0 1 0 12 12 with ready := true }
    let w : Master := serverInfo s ⟨7, 7⟩ 3000 1200 7 .world "10.0.0.2"
    let c : Master := serverInfo s ⟨8, 8⟩ 9 0 1 .chat "10.0.0.3"
    (∃ N, w.instances = s.instances ++ [N] ∧ instanceKey N = (1200 % 2 ^ 16, 0, 7 % 2 ^ 16) ∧
        N.port = 3000 ∧ N.sysAddr = ⟨7, 7⟩ ∧
        findInstance w (1200 % 2 ^ 16) (7 % 2 ^ 16) = some N ∧
        getInstanceBySysAddr w ⟨7, 7⟩ = some N) ∧
      c.instances = s.instances.map
          (fun j => if j.handle = I.handle then { j with sysAddr := ⟨8, 8⟩ } else j) ∧
        findInstance c (0 % 2 ^ 16) (1 % 2 ^ 16) = some { I with sysAddr := ⟨8, 8⟩ } :=
  let ⟨N, h₁, h₂, h₃, h₄, h₅, h₆⟩ := (serverInfo_registry (startup "10.0.0.1" true) ⟨7, 7⟩
    3000 1200 7 .world "10.0.0.2").1 ⟨rfl, by decide⟩
  ⟨⟨N, h₁, h₂, h₃, h₄, h₅ (by decide), h₆ (by decide)⟩,
    ((serverInfo_registry (startup "10.0.0.1" true) ⟨8, 8⟩ 9 0 1 .chat "10.0.0.3").2
      (by rintro ⟨h, -⟩; cases h)).1 _ (by decide)⟩

/-- From the prestarted registry (map 0, instance 1 on port 1; map 1000, instance 2 on
port 2): a world announcing map 1200, instance 7 on port 1 is registered under no key,
and a chat server announcing map 0, instance 1 takes over that world's address. -/
theorem serverInfo_port_held_or_chat :
    let s : Master := startup "10.0.0.1" true
    let w : Master := handlePacket s ⟨⟨7, 7⟩, none, some (.serverInfo 1 1200 7 .world "10.0.0.2")⟩
    let c : Master := handlePacket s ⟨⟨8, 8⟩, none, some (.serverInfo 9 0 1 .chat "10.0.0.3")⟩
    Reachable w ∧ findInstance w 1200 7 = none ∧
      Reachable c ∧ (findInstance c 0 1).map (·.sysAddr) = some ⟨8, 8⟩ :=
  ⟨.step (.startup _ _) (.dispatch _ _), by decide, .step (.startup _ _) (.dispatch _ _), by decide⟩

end MasterServer.InstanceKeys
