import MasterServer.Frame
import MasterServer.Act

/-!
# Every operation evolves by `Change`

Every act changes a registered instance only by `Change`, registers a pristine one at the
next handle, or removes one (`Act.evolves`); so does every chain of acts, and with the
timeout and reaping passes every step of the master evolves by `PassChange`.
-/

namespace MasterServer

open Master Relation

theorem launchInstance_evolves (s : Master) (mapID cloneID : Nat) (pw : Option (List UInt8)) :
    Evolves Change s (launchInstance s mapID cloneID pw).1 :=
  (evolves_addInstance _ _ rfl ⟨rfl, rfl, rfl, rfl, rfl, rfl⟩).trans (evolves_emit _ _)

@[simp] theorem launchInstance_snd_handle (s : Master) (mapID cloneID : Nat)
    (pw : Option (List UInt8)) : (launchInstance s mapID cloneID pw).2.handle = s.nextHandle := rfl

/-- The net effect of `ReadyInstance` on the drained requests of `i`. -/
theorem foldl_requestAffirmation (i : Instance) :
    ∀ (rs : List TransferRequest) (s : Master) (g : Instance → Instance) (es : List Effect),
      (∀ j, (g j).handle = j.handle) →
      rs.foldl (fun s r => requestAffirmation s i r) ((s.modify i.handle g).emit es) =
        (s.modify i.handle fun j =>
          { g j with pendingAffirmations := (g j).pendingAffirmations ++ rs }).emit
          (es ++ rs.map fun r => .send i.sysAddr (.prepZone i.mapID r.requestID))
  | [], s, g, es, _ => by simp
  | r :: rs, s, g, es, hg => by
    rw [List.foldl_cons]
    have hstep : requestAffirmation ((s.modify i.handle g).emit es) i r =
        (s.modify i.handle fun j =>
          { g j with pendingAffirmations := (g j).pendingAffirmations ++ [r] }).emit
          (es ++ [.send i.sysAddr (.prepZone i.mapID r.requestID)]) := by
      simp only [requestAffirmation, modify_emit, emit_emit, modify_modify _ _ _ _ hg]
      rfl
    rw [hstep, foldl_requestAffirmation i rs s
      (fun j => { g j with pendingAffirmations := (g j).pendingAffirmations ++ [r] }) _ hg]
    simp [List.append_assoc]

theorem readyInstance_eq (s : Master) (i : Instance) :
    readyInstance s i =
      (s.modify i.handle fun j => { j with
          ready := true, pendingRequests := [],
          pendingAffirmations := j.pendingAffirmations ++ i.pendingRequests }).emit
        (i.pendingRequests.map fun r => .send i.sysAddr (.prepZone i.mapID r.requestID)) := by
  have h := foldl_requestAffirmation i i.pendingRequests s
    (fun j => { j with ready := true, pendingRequests := [] }) [] (fun _ => rfl)
  rw [emit_nil] at h
  simpa using h

/-- Every act changes instances only by `Change`. -/
theorem Act.evolves {src : Source} {tk dr : Multiset TransferRequest} {s s' : Master}
    (h : Act src tk dr s s') : Evolves Change s s' := by
  cases h with
  | launch => exact launchInstance_evolves _ _ _ _
  | enqueue hi hr hs => exact evolves_modify_self hi _ (fun _ => rfl) (.enqueue _ _ hr hs)
  | requestAffirmation hi hs =>
    refine Evolves.trans ?_ (evolves_emit _ _)
    exact evolves_modify_self hi _ (fun _ => rfl) (.requestAffirmation _ _ hs)
  | removePeer => exact evolves_removeInstance _ _
  | registerWorld => exact evolves_addInstance _ _ rfl ⟨rfl, rfl, rfl, rfl, rfl, rfl⟩
  | setSysAddr hi => exact evolves_modify_self hi _ (fun _ => rfl) (.setSysAddr _ _)
  | changePlayers f hi => exact evolves_modify_self hi _ (fun _ => rfl) (.setPlayers _ _)
  | readyInstance hi =>
    rw [readyInstance_eq]
    refine Evolves.trans ?_ (evolves_emit _ _)
    exact evolves_modify_self hi _ (fun _ => rfl) (.readyInstance _)
  | affirmTransfer hi =>
    refine Evolves.trans ?_ (evolves_emit _ _)
    exact evolves_modify_self hi _ (fun _ => rfl) (.affirmTransfer _ _)
  | setShuttingDown hi => exact evolves_modify_self hi _ (fun _ => rfl) (.setShuttingDown _)
  | setSessionKey s k u =>
    obtain ⟨_, e, -⟩ := setSessionKey_frame s k.toNat u
    exact .of_eq (by rw [e]) (by rw [e])
  | restartChatServer | generatePersistentID | rememberChatServer | shutdownUniverse |
      answerPrivateZone | refusePrivateZone | shutdownInstance | reply | nullDereference =>
    exact .of_eq rfl rfl

theorem Acts.evolves {src : Source} {tk dr : Multiset TransferRequest} {s s' : Master}
    (h : Acts src tk dr s s') : Evolves Change s s' :=
  h.lift Evolves.refl (fun h₁ h₂ => h₁.trans h₂) Act.evolves

/-- Every act only appends effects. -/
theorem Act.appends {src : Source} {tk dr : Multiset TransferRequest} {s s' : Master}
    (h : Act src tk dr s s') : Appends (fun _ => True) s s' := by
  cases h with
  | readyInstance => rw [readyInstance_eq]; exact .of_emit _ fun _ _ => trivial
  | setSessionKey s k u =>
    obtain ⟨es, he, -⟩ := setSessionKey_frame s k.toNat u
    exact ⟨es, congrArg Master.effects he, fun _ _ => trivial⟩
  | _ => first | exact .of_effects_eq rfl | exact .of_single rfl trivial

theorem Acts.appends {src : Source} {tk dr : Multiset TransferRequest} {s s' : Master}
    (h : Acts src tk dr s s') : Appends (fun _ => True) s s' :=
  h.lift Appends.refl (fun h₁ h₂ => h₁.trans h₂) Act.appends

theorem handlePacket_evolves (s : Master) (p : Packet) : Evolves Change s (handlePacket s p) := by
  have hn := (handleNotification_acts s p.systemAddress p.notification).evolves
  unfold handlePacket
  split
  exacts [hn.trans (handleMasterMessage_acts ..).evolves, hn]

/-- One visit of the timeout pass: a `count`, or a `wedge` followed by resolutions. -/
theorem checkAffirmation_evolves (s : Master) (h : Nat) :
    Evolves PassChange s (checkAffirmation s h).1 := by
  unfold checkAffirmation
  split
  · exact .refl s
  · rename_i i hg
    obtain ⟨hi, rfl⟩ := get?_mem hg
    dsimp only
    split
    · rename_i hw
      unfold redirectPendingRequests
      rw [modify_emit, modify_modify, modify_emit, modify_modify]
      · refine Evolves.trans ?_
          ((redirect_acts i _ _ fun _ h => h).evolves.mono fun _ _ => PassChange.change)
        refine Evolves.trans ?_ (evolves_emit _ _)
        refine evolves_modify_self hi _ (fun _ => rfl) ?_
        simpa [hw] using PassChange.wedge i hw
      all_goals exact fun _ => rfl
    · exact evolves_modify_self hi _ (fun _ => rfl) (.count i ‹_›)

theorem reapInstance_evolves (s : Master) (h : Nat) : Evolves PassChange s (reapInstance s h) := by
  unfold reapInstance
  repeat' split
  all_goals first | exact evolves_removeInstance _ _ | exact .refl s

theorem Step.evolves {s s' : Master} (h : Step s s') : Evolves PassChange s s' := by
  cases h with
  | dispatch p => exact (handlePacket_evolves s p).mono fun _ _ => .change
  | countdown => unfold MasterServer.countdown; split <;> exact .of_eq rfl rfl
  | check h => exact checkAffirmation_evolves s h
  | reap h => exact reapInstance_evolves s h
  | shutdownInstances => exact evolves_emit _ _

/-- Every step of the master only appends effects. -/
theorem Step.appends {s s' : Master} (h : Step s s') : Appends (fun _ => True) s s' := by
  cases h with
  | dispatch p =>
    have hn := (handleNotification_acts s p.systemAddress p.notification).appends
    unfold handlePacket
    split
    exacts [hn.trans (handleMasterMessage_acts ..).appends, hn]
  | countdown => exact .of_effects_eq (by unfold MasterServer.countdown; split <;> rfl)
  | check h =>
    unfold checkAffirmation redirectPendingRequests
    split
    · exact .refl s
    · dsimp only
      split
      · refine Appends.trans ?_ (redirect_acts _ _ _ fun _ h => h).appends
        exact .of_single rfl trivial
      · exact .of_effects_eq rfl
  | reap h =>
    unfold reapInstance
    repeat' split
    all_goals exact .of_effects_eq rfl
  | shutdownInstances => exact .of_emit _ fun _ _ => trivial

/-- The registry the loop starts with: empty, or the two prestarted instances, ready. -/
theorem startup_instances (ip : String) (prestart : Bool) :
    (startup ip prestart).instances =
      if prestart then
        [{ newInstance 0 ip 1 0 1 0 12 12 with ready := true },
          { newInstance 1 ip 2 1000 2 0 12 12 with ready := true }]
      else [] := by
  cases prestart <;> rfl

theorem startup_nextHandle (ip : String) (prestart : Bool) :
    (startup ip prestart).nextHandle = if prestart then 2 else 0 := by
  cases prestart <;> rfl

theorem startup_wellFormed (ip : String) (prestart : Bool) : WellFormed (startup ip prestart) := by
  cases prestart <;>
    simp [WellFormed, startup_instances, startup_nextHandle, newInstance]

/-- A property of instances that holds at startup, of pristine instances, and is kept
by every `PassChange` holds of every instance of every reachable state. -/
theorem Reachable.forall_instances (P : Instance → Prop)
    (h0 : ∀ ip prestart, ∀ i ∈ (MasterServer.startup ip prestart).instances, P i)
    (hp : ∀ i, Pristine i → P i) (hc : ∀ i i', PassChange i i' → P i → P i')
    {s : Master} (hs : Reachable s) : WellFormed s ∧ ∀ i ∈ s.instances, P i := by
  induction hs with
  | startup ip prestart => exact ⟨startup_wellFormed ip prestart, h0 ip prestart⟩
  | step _ hst ih =>
    obtain ⟨hw, hd⟩ := hst.evolves ih.1
    exact ⟨hw, hd.forall hp hc ih.2⟩

theorem steps_evolves {s s' : Master} (h : ReflTransGen Step s s') : Evolves PassChange s s' := by
  induction h with
  | refl => exact .refl _
  | tail _ hst ih => exact ih.trans hst.evolves

theorem steps_appends {s s' : Master} (h : ReflTransGen Step s s') :
    Appends (fun _ => True) s s' := by
  induction h with
  | refl => exact .refl _
  | tail _ hst ih => exact ih.trans hst.appends

theorem Reachable.steps {s s' : Master} (hs : Reachable s) (h : ReflTransGen Step s s') :
    Reachable s' := by
  induction h with
  | refl => exact hs
  | tail _ hst ih => exact .step ih hst

theorem PassChange.chain_handle {i i' : Instance} (h : ReflTransGen PassChange i i') :
    i'.handle = i.handle := by
  induction h with
  | refl => rfl
  | tail _ hst ih => exact hst.handle.trans ih

/-- Across a run, the instance at a handle that was registered descends from the
instance that was there: handles are never reused. -/
theorem Descends.chain_of_handle {s s' : Master} (hw : WellFormed s)
    (hd : Descends PassChange s s') {i i' : Instance} (hi : i ∈ s.instances)
    (hi' : i' ∈ s'.instances) (hh : i'.handle = i.handle) : ReflTransGen PassChange i i' := by
  obtain ⟨j, ho, hr⟩ := hd.2 i' hi'
  have hj : j.handle = i.handle := (PassChange.chain_handle hr).symm.trans hh
  rcases ho with hj' | ⟨-, hn⟩
  · rwa [← hw.eq_of_handle hi hj' hj]
  · exact absurd (hw.2 i hi) (by omega)

theorem Reachable.wellFormed {s : Master} (hs : Reachable s) : WellFormed s :=
  (Reachable.forall_instances (fun _ => True) (fun _ _ _ _ => trivial) (fun _ _ => trivial)
    (fun _ _ _ _ => trivial) hs).1

end MasterServer
