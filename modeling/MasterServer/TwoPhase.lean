import MasterServer.Affirmation

/-!
# Prepare before answer

`REQUEST_ZONE_TRANSFER` is two-phase: `PREP_ZONE` goes to the chosen world and the request
waits in its `pendingAffirmations` until `AFFIRM_TRANSFER_RESPONSE` answers the requester.
Every reachable state is `Prepped`, since the two acts that add an affirmation send its
`PREP_ZONE`; and the handshake completes once the world is ready and affirms.
-/

namespace MasterServer.TwoPhase

open Master

/-- A `PREP_ZONE` for the map and the request id is among the effects, sent to some peer. -/
def PrepSent (es : List Effect) (mapID : Nat) (requestID : UInt64) : Prop :=
  ∃ a, Effect.send a (.prepZone mapID requestID) ∈ es

/-- Every request an instance awaits affirmation for has had its `PREP_ZONE` sent for the
instance's map. -/
def Prepped (s : Master) : Prop :=
  ∀ i ∈ s.instances, ∀ r ∈ i.pendingAffirmations, PrepSent s.effects i.mapID r.requestID

theorem PrepSent.append_right {es : List Effect} {mapID : Nat} {requestID : UInt64}
    (h : PrepSent es mapID requestID) (es' : List Effect) : PrepSent (es ++ es') mapID requestID :=
  let ⟨a, ha⟩ := h
  ⟨a, List.mem_append_left _ ha⟩

theorem PrepSent.append_left {es' : List Effect} {mapID : Nat} {requestID : UInt64}
    (h : PrepSent es' mapID requestID) (es : List Effect) : PrepSent (es ++ es') mapID requestID :=
  let ⟨a, ha⟩ := h
  ⟨a, List.mem_append_right _ ha⟩

section Primitives

variable {s : Master} (hp : Prepped s)
include hp

theorem prepped_emit (es : List Effect) : Prepped (s.emit es) :=
  fun i hi r hr => (hp i hi r hr).append_right es

/-- A mutation that keeps the map and takes no affirmation in keeps the invariant. -/
theorem prepped_modify (h : Nat) {f : Instance → Instance}
    (hf : ∀ j, (f j).mapID = j.mapID ∧ ∀ r ∈ (f j).pendingAffirmations, r ∈ j.pendingAffirmations) :
    Prepped (s.modify h f) := by
  intro i hi r hr
  obtain ⟨j, hj, rfl⟩ := List.mem_map.mp hi
  by_cases hjh : j.handle = h
  · rw [if_pos hjh] at hr ⊢
    rw [(hf j).1]
    exact hp j hj r ((hf j).2 r hr)
  · rw [if_neg hjh] at hr ⊢
    exact hp j hj r hr

theorem prepped_addInstance {mk : Nat → Instance} (hmk : (mk s.nextHandle).pendingAffirmations = []) :
    Prepped (s.addInstance mk) := by
  intro i hi r hr
  rcases List.mem_append.mp hi with hi | hi
  · exact hp i hi r hr
  · rw [List.mem_singleton.mp hi, hmk] at hr; cases hr

theorem prepped_removeInstance (h : Nat) : Prepped (s.removeInstance h) :=
  fun i hi => hp i (List.mem_of_mem_filter hi)

/-- Adding affirmations to a registered instance while sending the `PREP_ZONE` of each
keeps the invariant. -/
theorem prepped_modify_emit (hw : WellFormed s) {i : Instance} (hi : i ∈ s.instances)
    (f : Instance → Instance) (es : List Effect) (hm : (f i).mapID = i.mapID)
    (hf : ∀ r ∈ (f i).pendingAffirmations,
      r ∈ i.pendingAffirmations ∨ PrepSent es i.mapID r.requestID) :
    Prepped ((s.modify i.handle f).emit es) := by
  intro j hj r hr
  obtain ⟨k, hk, rfl⟩ := List.mem_map.mp hj
  by_cases hkh : k.handle = i.handle
  · rw [hw.eq_of_handle hi hk hkh, if_pos rfl] at hr ⊢
    rw [hm]
    rcases hf r hr with hr | hr
    exacts [(hp i hi r hr).append_right es, hr.append_left s.effects]
  · rw [if_neg hkh] at hr ⊢
    exact (hp k hk r hr).append_right es

end Primitives

/-- `RequestAffirmation` sends the `PREP_ZONE` of the request it holds. -/
theorem prepped_requestAffirmation {s : Master} (hw : WellFormed s) (hp : Prepped s) {i : Instance}
    (hi : i ∈ s.instances) (r : TransferRequest) : Prepped (requestAffirmation s i r) := by
  refine prepped_modify_emit hp hw hi _ _ rfl fun r' hr' => ?_
  rcases List.mem_append.mp hr' with hr' | hr'
  · exact .inl hr'
  · exact .inr ⟨_, List.mem_singleton.mpr (by rw [List.mem_singleton.mp hr'])⟩

/-- `ReadyInstance` sends the `PREP_ZONE` of every request it moves to the affirmations. -/
theorem prepped_readyInstance {s : Master} (hw : WellFormed s) (hp : Prepped s) {i : Instance}
    (hi : i ∈ s.instances) : Prepped (readyInstance s i) := by
  rw [readyInstance_eq]
  refine prepped_modify_emit hp hw hi _ _ rfl fun r hr => ?_
  rcases List.mem_append.mp hr with hr | hr
  · exact .inl hr
  · exact .inr ⟨_, List.mem_map_of_mem _ hr⟩

/-- Every act keeps `Prepped`: the two that add an affirmation send its `PREP_ZONE`, and the
others take no affirmation in. -/
theorem prepped_act {src : Source} {tk dr : Multiset TransferRequest} {s t : Master}
    (h : Act src tk dr s t) (hw : WellFormed s) (hp : Prepped s) : Prepped t := by
  cases h with
  | launch => exact prepped_emit (prepped_addInstance hp rfl) _
  | requestAffirmation hi => exact prepped_requestAffirmation hw hp hi _
  | removePeer => exact prepped_removeInstance hp _
  | registerWorld => exact prepped_addInstance hp rfl
  | setSessionKey s k u =>
    obtain ⟨es, he, -⟩ := setSessionKey_frame s k.toNat u
    rw [he]
    exact fun i hi r hr => (hp i hi r hr).append_right es
  | readyInstance hi => exact prepped_readyInstance hw hp hi
  | affirmTransfer =>
    refine prepped_emit (prepped_modify hp _ ?_) _
    exact fun _ => ⟨rfl, fun _ => List.mem_of_mem_erase⟩
  | rememberChatServer | shutdownUniverse | refusePrivateZone => exact hp
  | enqueue | setSysAddr | changePlayers | setShuttingDown =>
    refine prepped_modify hp _ ?_
    exact fun _ => ⟨rfl, fun _ h => h⟩
  | _ => exact prepped_emit hp _

theorem prepped_acts {src : Source} {tk dr : Multiset TransferRequest} {s t : Master}
    (h : Acts src tk dr s t) (hw : WellFormed s) (hp : Prepped s) : Prepped t :=
  (h.preserves (I := fun s => WellFormed s ∧ Prepped s)
    (fun ha ⟨hw, hp⟩ => ⟨(ha.evolves hw).1, prepped_act ha hw hp⟩) ⟨hw, hp⟩).2

theorem prepped_handlePacket {s : Master} (hw : WellFormed s) (hp : Prepped s) (p : Packet) :
    Prepped (handlePacket s p) := by
  have hn := handleNotification_acts s p.systemAddress p.notification
  unfold handlePacket
  split
  · exact prepped_acts (handleMasterMessage_acts ..) (hn.evolves hw).1 (prepped_acts hn hw hp)
  · exact prepped_acts hn hw hp

theorem prepped_checkAffirmation {s : Master} (hw : WellFormed s) (hp : Prepped s) (h : Nat) :
    Prepped (checkAffirmation s h).1 := by
  unfold checkAffirmation
  split
  · exact hp
  · dsimp only
    split
    · unfold redirectPendingRequests
      refine prepped_acts (redirect_acts _ _ _ fun _ h => h) ?_ ?_
      · refine Affirmation.wellFormed_modify (Affirmation.wellFormed_modify
          (Affirmation.wellFormed_modify hw _ ?_) _ ?_) _ ?_ <;> exact fun _ => rfl
      refine prepped_modify (prepped_modify (prepped_emit (prepped_modify hp _ ?_) _) _ ?_) _ ?_
      · exact fun _ => ⟨rfl, fun _ h => h⟩
      · exact fun _ => ⟨rfl, fun _ h => h⟩
      · exact fun _ => ⟨rfl, fun _ h => nomatch h⟩
    · refine prepped_modify hp _ ?_
      exact fun _ => ⟨rfl, fun _ h => h⟩

theorem prepped_startup (externalIP : String) (prestart : Bool) :
    Prepped (startup externalIP prestart) := by
  intro i hi r hr
  rw [startup_instances] at hi
  cases prestart <;>
    simp only [ite_true, List.mem_cons, List.not_mem_nil, or_false] at hi
  · cases hi
  · rcases hi with rfl | rfl <;> cases hr

theorem prepped_of_step {s s' : Master} (hst : Step s s') (hw : WellFormed s) (hp : Prepped s) :
    Prepped s' := by
  cases hst with
  | dispatch p => exact prepped_handlePacket hw hp p
  | countdown => unfold MasterServer.countdown; split <;> exact hp
  | check h => exact prepped_checkAffirmation hw hp h
  | reap h =>
    unfold reapInstance
    repeat' split
    all_goals first | exact prepped_removeInstance hp _ | exact hp
  | shutdownInstances => exact prepped_emit hp _

/-- Every reachable state is `Prepped`. -/
theorem reachable_prepped {s : Master} (hs : Reachable s) : Prepped s := by
  induction hs with
  | startup ip prestart => exact prepped_startup ip prestart
  | step hs hst ih => exact prepped_of_step hst hs.wellFormed ih

/-- **Prepare before answer.** From every reachable state, what an
`AFFIRM_TRANSFER_RESPONSE` makes the master send is only appended to its effects, and each
`ZONE_TRANSFER_RESPONSE` in it follows a `PREP_ZONE` already sent for the same request id
and map. -/
theorem affirmTransferResponse_after_prepZone {s : Master} (hs : Reachable s) (addr : SysAddr)
    (requestID : UInt64) :
    ∃ new, (handleMasterMessage s addr (.affirmTransferResponse requestID)).effects =
        s.effects ++ new ∧
      ∀ a rid shift mapID instanceID cloneID ip port,
        Effect.send a (.zoneTransferResponse rid shift mapID instanceID cloneID ip port) ∈ new →
          PrepSent s.effects mapID rid := by
  simp only [handleMasterMessage]
  split
  · exact ⟨[], (List.append_nil _).symm, fun _ _ _ _ _ _ _ _ h => nomatch h⟩
  · rename_i i hi
    unfold affirmTransfer
    split
    · exact ⟨[], (List.append_nil _).symm, fun _ _ _ _ _ _ _ _ h => nomatch h⟩
    · rename_i r hr
      refine ⟨_, rfl, fun _ _ _ _ _ _ _ _ h => ?_⟩
      cases List.mem_singleton.mp h
      exact reachable_prepped hs i (List.mem_of_find?_eq_some hi) r (List.mem_of_find?_eq_some hr)

/-- The affirmation, from the address it registered with, of a request to the prestarted
zone 0. -/
theorem prepZone_before_affirmed_request :
    let s : Master := handlePacket
      (handlePacket (startup "" true) ⟨⟨2, 2⟩, none, some (.serverInfo 1 0 1 .world "")⟩)
      ⟨⟨1, 1⟩, none, some (.requestZoneTransfer 7 0 0 0)⟩
    ∃ new, (handleMasterMessage s ⟨2, 2⟩ (.affirmTransferResponse 7)).effects =
        s.effects ++ new ∧
      ∀ a rid shift mapID instanceID cloneID ip port,
        Effect.send a (.zoneTransferResponse rid shift mapID instanceID cloneID ip port) ∈ new →
          PrepSent s.effects mapID rid :=
  affirmTransferResponse_after_prepZone (.step (.step (.startup "" true) (.dispatch _ _))
    (.dispatch _ _)) _ _

/-- A lookup over the registry after a mutation that keeps what it tests finds the mutated
instance at the same place. -/
theorem find?_modify {s : Master} {P : Instance → Bool} {h : Nat} {f : Instance → Instance}
    (hP : ∀ j, P (f j) = P j) :
    (s.modify h f).instances.find? P =
      (s.instances.find? P).map fun j => if j.handle = h then f j else j := by
  rw [modify_instances, List.find?_map]
  congr 2
  funext j
  simp only [Function.comp]
  split <;> simp [hP]

theorem find?_requestID {l t : List TransferRequest} {r : TransferRequest} {rid : UInt64}
    (hr : r.requestID = rid) (hl : ∀ x ∈ l, x.requestID ≠ rid) :
    (l ++ r :: t).find? (·.requestID == rid) = some r := by
  rw [List.find?_append, List.find?_eq_none.mpr (by simpa using hl)]
  simp [hr]

/-- An `AFFIRM_TRANSFER_RESPONSE` from the address of an instance whose affirmations end
with a request, no earlier one carrying its id, answers that request with the instance's
endpoint. -/
theorem affirmTransferResponse_answers {t : Master} {a : SysAddr} {j : Instance}
    {l : List TransferRequest} {r : TransferRequest} (hj : getInstanceBySysAddr t a = some j)
    (ha : j.pendingAffirmations = l ++ [r]) (hl : ∀ x ∈ l, x.requestID ≠ r.requestID) :
    Effect.send r.requester (.zoneTransferResponse r.requestID r.mythranShift j.mapID
        j.instanceID j.cloneID j.ip j.port) ∈
      (handleMasterMessage t a (.affirmTransferResponse r.requestID)).effects := by
  simp only [handleMasterMessage, hj, affirmTransfer, ha]
  rw [find?_requestID (t := []) rfl hl]
  simp

/-- **Transfers complete.** From any state, a `REQUEST_ZONE_TRANSFER` that zone resolution
gives to a registered instance `i` is answered once the world behind `i` does its part:
`PREP_ZONE` reaches `i`'s address, at once if `i` is ready and on its `WORLD_READY`
otherwise, and the world's `AFFIRM_TRANSFER_RESPONSE` sends the requester a
`ZONE_TRANSFER_RESPONSE` with `i`'s endpoint. The lookups by address and by key must find
`i` itself, and no request `i` holds may carry the same id. -/
theorem transfer_completes {s : Master} {i : Instance} (q : SysAddr) (rid : UInt64)
    (shift : UInt8) (zoneID zoneClone : UInt32) (zid iid : UInt16)
    (hget : getInstance s (zoneID.toNat % 2 ^ 16) zoneClone.toNat = (s, i))
    (haddr : getInstanceBySysAddr s i.sysAddr = some i)
    (hkey : i.ready = false → findInstance s zid.toNat iid.toNat = some i)
    (hfresh : ∀ r ∈ i.pendingAffirmations ++ i.pendingRequests, r.requestID ≠ rid) :
    let s₁ := handlePacket s ⟨q, none, some (.requestZoneTransfer rid shift zoneID zoneClone)⟩
    let s₂ := if i.ready then s₁
      else handlePacket s₁ ⟨i.sysAddr, none, some (.worldReady zid iid)⟩
    let s₃ := handlePacket s₂ ⟨i.sysAddr, none, some (.affirmTransferResponse rid)⟩
    Effect.send i.sysAddr (.prepZone i.mapID rid) ∈ s₂.effects ∧
      Effect.send q (.zoneTransferResponse rid (shift != 0) i.mapID i.instanceID i.cloneID i.ip
        i.port) ∈ s₃.effects := by
  intro s₁ s₂ s₃
  have h₁ : s₁ = requestZoneTransfer s (zoneID.toNat % 2 ^ 16) zoneClone.toNat
      ⟨rid, shift != 0, q⟩ := rfl
  simp only [requestZoneTransfer, hget] at h₁
  have hs₃ : s₃ = handleMasterMessage s₂ i.sysAddr (.affirmTransferResponse rid) := rfl
  unfold getInstanceBySysAddr at haddr
  cases hr : i.ready with
  | true =>
    have h₂ : s₂ = s₁ := if_pos hr
    simp only [hr, Bool.not_true, Bool.false_eq_true, ↓reduceIte] at h₁
    refine ⟨by rw [h₂, h₁]; simp [requestAffirmation], ?_⟩
    have hA : getInstanceBySysAddr s₂ i.sysAddr =
        some { i with pendingAffirmations := i.pendingAffirmations ++ [⟨rid, shift != 0, q⟩] } := by
      rw [h₂, h₁, getInstanceBySysAddr, requestAffirmation, emit_instances, find?_modify, haddr]
      · simp
      · exact fun _ => rfl
    rw [hs₃]
    exact affirmTransferResponse_answers hA rfl fun x hx => hfresh x (List.mem_append_left _ hx)
  | false =>
    simp only [hr, Bool.not_false, ↓reduceIte] at h₁
    unfold findInstance at hkey
    have hK : findInstance s₁ zid.toNat iid.toNat =
        some { i with pendingRequests := i.pendingRequests ++ [⟨rid, shift != 0, q⟩] } := by
      rw [h₁, findInstance, find?_modify, hkey hr]
      · simp
      · exact fun _ => rfl
    have h₂ : s₂ = readyInstance s₁
        { i with pendingRequests := i.pendingRequests ++ [⟨rid, shift != 0, q⟩] } := by
      show (if i.ready = true then s₁ else _) = _
      rw [if_neg (by rw [hr]; exact Bool.false_ne_true)]
      show handleMasterMessage s₁ i.sysAddr (.worldReady zid iid) = _
      simp only [handleMasterMessage, hK]
    rw [readyInstance_eq] at h₂
    refine ⟨by rw [h₂]; simp, ?_⟩
    have hA : getInstanceBySysAddr s₂ i.sysAddr =
        some { i with
          ready := true, pendingRequests := [],
          pendingAffirmations :=
            i.pendingAffirmations ++ (i.pendingRequests ++ [⟨rid, shift != 0, q⟩]) } := by
      rw [h₂, getInstanceBySysAddr, emit_instances, find?_modify, h₁, find?_modify, haddr]
      · simp
      · exact fun _ => rfl
      · exact fun _ => rfl
    rw [hs₃]
    exact affirmTransferResponse_answers hA (List.append_assoc _ _ _).symm hfresh

/-- A second transfer to map 1200 after the first launched its world and the world
registered from (3, 3): queued, prepared on `WORLD_READY`, and answered on the
affirmation. -/
theorem transfer_completes_after_launch :
    let s : Master := handlePacket
      (handlePacket (startup "" false) ⟨⟨1, 1⟩, none, some (.requestZoneTransfer 7 0 1200 0)⟩)
      ⟨⟨3, 3⟩, none, some (.serverInfo 1 1200 1 .world "")⟩
    let i : Instance := { newInstance 0 "" 1 1200 1 0 12 12 with
      sysAddr := ⟨3, 3⟩, pendingRequests := [⟨7, false, ⟨1, 1⟩⟩] }
    let s₁ := handlePacket s ⟨⟨2, 2⟩, none, some (.requestZoneTransfer 8 0 1200 0)⟩
    let s₂ := if i.ready then s₁
      else handlePacket s₁ ⟨i.sysAddr, none, some (.worldReady 1200 1)⟩
    let s₃ := handlePacket s₂ ⟨i.sysAddr, none, some (.affirmTransferResponse 8)⟩
    Effect.send i.sysAddr (.prepZone i.mapID 8) ∈ s₂.effects ∧
      Effect.send ⟨2, 2⟩ (.zoneTransferResponse 8 (0 != 0) i.mapID i.instanceID i.cloneID i.ip
        i.port) ∈ s₃.effects :=
  transfer_completes ⟨2, 2⟩ 8 0 1200 0 1200 1 (by rfl) (by rfl) (fun _ => by rfl) (by decide)

end MasterServer.TwoPhase
