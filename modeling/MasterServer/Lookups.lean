import MasterServer.Drain

/-!
# Dereferencing lookups

Every case of `HandlePacket` that looks an instance up tests the pointer before it
uses it, except `MSG_MASTER_GET_INSTANCES` (lines 749-789): it calls `GetSysAddr()` on
`FindInstance(respondingZoneID, respondingInstanceID)` unchecked, which the model
records as the effect `nullDereference`. This module shows that no other case, in
any state, records one.
-/

namespace MasterServer.Lookups

open Master

/-- The effect that stands for calling through a null `Instance*`. -/
def isNullDereference : Effect → Bool
  | .nullDereference => true
  | _ => false

/-- Every act but that of the unchecked lookup of `GET_INSTANCES` checks what it looks up. -/
theorem checked_of_act {src : Source} {tk dr : Multiset TransferRequest} {s t : Master}
    (h : Act src tk dr s t) (hs : ∀ addr o z rz ri, src ≠ .message addr (.getInstances o z rz ri)) :
    Appends (fun e => isNullDereference e = false) s t := by
  cases h
  case nullDereference addr o z rz ri _ => exact absurd rfl (hs addr o z rz ri)
  case readyInstance =>
    rw [readyInstance_eq]
    exact ⟨_, rfl, fun e he => by obtain ⟨r, -, rfl⟩ := List.mem_map.mp he; rfl⟩
  case setSessionKey _ k u =>
    obtain ⟨es, he, hb⟩ := setSessionKey_frame s k.toNat u
    exact ⟨es, congrArg Master.effects he, fun e h => hb e h ▸ rfl⟩
  all_goals first
    | exact .of_effects_eq rfl
    | exact .of_single rfl rfl

/-- Every case of the master `switch` but `GET_INSTANCES` checks what it looks up. -/
theorem handleMasterMessage_checked (s : Master) (addr : SysAddr) (m : MasterMessage)
    (hm : (m matches .getInstances ..) = false) :
    Appends (fun e => isNullDereference e = false) s (handleMasterMessage s addr m) :=
  (handleMasterMessage_acts s addr m).lift Appends.refl (·.trans ·) fun h =>
    checked_of_act h fun _ _ _ _ _ he => by cases Source.message.inj he |>.2; cases hm

/-- A case of the master `switch` dereferences a failed lookup only in `GET_INSTANCES`,
when no instance has the responding zone and instance. -/
theorem handleMasterMessage_nullDereference (s : Master) (addr : SysAddr) (m : MasterMessage) :
    Appends (fun e => isNullDereference e = true →
        ∃ o z rz ri, m = .getInstances o z rz ri ∧ findInstance s rz.toNat ri.toNat = none)
      s (handleMasterMessage s addr m) := by
  cases hm : m matches .getInstances ..
  · exact (handleMasterMessage_checked s addr m hm).mono fun e h he => by simp [h] at he
  cases m with
  | getInstances o z rz ri =>
    simp only [handleMasterMessage, getInstances]
    split
    · exact .of_emit _ fun _ _ _ => ⟨o, z, rz, ri, rfl, ‹_›⟩
    · exact .of_emit _ (by simp [isNullDereference])
  | _ => cases hm

/-- `HandlePacket`, in every state and on every packet, dereferences a failed lookup only
for a `GET_INSTANCES` whose responding zone and instance are not registered once the
transport event has been handled. -/
theorem handlePacket_nullDereference (s : Master) (p : Packet) :
    Appends (fun e => isNullDereference e = true →
        ∃ o z rz ri, p.master = some (.getInstances o z rz ri) ∧
          findInstance (handleNotification s p.systemAddress p.notification) rz.toNat ri.toNat =
            none)
      s (handlePacket s p) := by
  have hn := (handleNotification_acts s p.systemAddress p.notification).lift
    (R := Appends fun e => isNullDereference e = false) Appends.refl (·.trans ·) fun h =>
      checked_of_act h (by intro _ _ _ _ _ h; cases h)
  unfold handlePacket; split
  · rename_i m hm
    refine (hn.mono fun e h he => by simp [h] at he).trans
      ((handleMasterMessage_nullDereference _ _ m).mono fun e h he => ?_)
    obtain ⟨o, z, rz, ri, rfl, hf⟩ := h he
    exact ⟨o, z, rz, ri, hm, hf⟩
  · exact hn.mono fun e h he => by simp [h] at he

/-- A `GET_INSTANCES` from a peer naming a responding instance (map 1200, instance 1) that
the prestarted registry does not hold: the lookup fails and its result is dereferenced. -/
theorem getInstances_unregistered_responder :
    let s : Master := startup "10.0.0.1" true
    let s' : Master := handlePacket s ⟨⟨7, 7⟩, none, some (.getInstances 5 none 1200 1)⟩
    Reachable s' ∧ findInstance s 1200 1 = none ∧
      s'.effects = s.effects ++ [.nullDereference] :=
  ⟨.step (.startup _ _) (.dispatch _ _), by decide, by decide⟩

end MasterServer.Lookups
