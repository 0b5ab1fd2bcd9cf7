import MasterServer.Routing
import MasterServer.Registry

/-!
# Private zones are entered only by password

Only two acts send a `ZONE_TRANSFER_RESPONSE`: the affirmation of a request the instance
held, which is public (`Routing.Routed`), and the answer to `REQUEST_PRIVATE_ZONE` for the
instance whose password it presents. Their sources add no instance, so each response a
step sends names an instance registered before it.
-/

namespace MasterServer

/-- The sources whose acts add no instance and no affirmation: transport events, and the two
messages a `ZONE_TRANSFER_RESPONSE` answers. -/
def Source.narrows : Source → Bool
  | .event _ | .message _ (.affirmTransferResponse _) | .message _ (.requestPrivateZone ..) => true
  | _ => false

/-- The password a master message presents: that of `REQUEST_PRIVATE_ZONE`, as the C
string the handler looks up (line 634). -/
def presented : MasterMessage → Option (List UInt8)
  | .requestPrivateZone _ _ password => some (cStr password)
  | _ => none

/-- The password a source presents. -/
def Source.presented : Source → Option (List UInt8)
  | .message _ m => MasterServer.presented m
  | _ => none

theorem Source.quiet_of_narrows : ∀ {src : Source}, src.narrows = true →
    src.launches = false ∧ src.asks = []
  | .event _, _ => ⟨rfl, rfl⟩
  | .redirect _, h => by cases h
  | .message _ m, h => by cases m <;> first | exact ⟨rfl, rfl⟩ | cases h

namespace ZoneAccess

open Master Routing

/-- Whether an effect is a `ZONE_TRANSFER_RESPONSE`. -/
def isZoneTransferResponse : Effect → Bool
  | .send _ (.zoneTransferResponse ..) => true
  | _ => false

/-- What an effect lets a client into: a `ZONE_TRANSFER_RESPONSE` names a registered
instance of `s`, by map, instance, clone, address and port, that is public or whose
password is `pw`; any other effect lets nobody in. -/
def Admits (s : Master) (pw : Option (List UInt8)) : Effect → Prop
  | .send _ (.zoneTransferResponse _ _ mapID instanceID cloneID ip port) =>
    ∃ i ∈ s.instances, (i.privatePassword = none ∨ i.privatePassword = pw) ∧
      i.mapID = mapID ∧ i.instanceID = instanceID ∧ i.cloneID = cloneID ∧ i.ip = ip ∧
        i.port = port
  | _ => True

/-- An instance as a `ZONE_TRANSFER_RESPONSE` names it, with its password. -/
def key (i : Instance) : Nat × Nat × Nat × String × Nat × Option (List UInt8) :=
  (i.mapID, i.instanceID, i.cloneID, i.ip, i.port, i.privatePassword)

/-- Only a public instance holds an affirmation. -/
def Public (s : Master) : Prop :=
  ∀ i ∈ s.instances, i.pendingAffirmations ≠ [] → i.privatePassword = none

/-- Every instance of `t` is one of `s` by `key`, holding no affirmation that one did not. -/
def Narrows (s t : Master) : Prop :=
  ∀ i ∈ t.instances, ∃ j ∈ s.instances, key j = key i ∧ i.pendingAffirmations ⊆ j.pendingAffirmations

theorem Admits.of_quiet {e : Effect} (he : isZoneTransferResponse e = false) (s : Master)
    (pw : Option (List UInt8)) : Admits s pw e := by
  unfold Admits
  split
  · cases he
  · trivial

theorem Admits.of_none {s : Master} {pw : Option (List UInt8)} {e : Effect}
    (he : Admits s none e) : Admits s pw e := by
  unfold Admits at he ⊢
  split
  · obtain ⟨i, hi, hpw, hr⟩ := he
    exact ⟨i, hi, .inl (hpw.elim id id), hr⟩
  · trivial

namespace Narrows

variable {s s₁ s₂ s₃ : Master}

theorem refl (s : Master) : Narrows s s := fun i hi => ⟨i, hi, rfl, fun _ h => h⟩

theorem trans (h₁ : Narrows s₁ s₂) (h₂ : Narrows s₂ s₃) : Narrows s₁ s₃ := fun i hi =>
  let ⟨j, hj, hji, hsj⟩ := h₂ i hi
  let ⟨k, hk, hkj, hsk⟩ := h₁ j hj
  ⟨k, hk, hkj.trans hji, hsj.trans hsk⟩

theorem of_instances_eq (h : s₂.instances = s₁.instances) : Narrows s₁ s₂ := fun i hi =>
  ⟨i, h ▸ hi, rfl, fun _ h => h⟩

theorem emit (h : Narrows s₁ s₂) (es : List Effect) : Narrows s₁ (s₂.emit es) := h

theorem of_modify (s : Master) (h : Nat) {f : Instance → Instance}
    (hf : ∀ j, key (f j) = key j ∧ (f j).pendingAffirmations ⊆ j.pendingAffirmations) :
    Narrows s (s.modify h f) := by
  intro i hi
  obtain ⟨j, hj, rfl⟩ := List.mem_map.mp hi
  refine ⟨j, hj, ?_⟩
  split
  exacts [⟨(hf j).1.symm, (hf j).2⟩, ⟨rfl, fun _ h => h⟩]

theorem of_removeInstance (s : Master) (h : Nat) : Narrows s (s.removeInstance h) :=
  fun i hi => ⟨i, List.mem_of_mem_filter hi, rfl, fun _ h => h⟩

theorem public (hn : Narrows s₁ s₂) (hp : Public s₁) : Public s₂ := fun i hi ha =>
  let ⟨j, hj, hk, hsub⟩ := hn i hi
  have hpw : j.privatePassword = i.privatePassword := congrArg (·.2.2.2.2.2) hk
  hpw ▸ hp j hj fun hnil => ha (List.subset_nil.mp (hnil ▸ hsub))

theorem admits (hn : Narrows s₁ s₂) {pw : Option (List UInt8)} {e : Effect}
    (he : Admits s₂ pw e) : Admits s₁ pw e := by
  unfold Admits at he ⊢
  split
  · obtain ⟨i, hi, hpw, h₁, h₂, h₃, h₄, h₅⟩ := he
    obtain ⟨j, hj, hk, -⟩ := hn i hi
    simp only [key, Prod.mk.injEq] at hk
    obtain ⟨e₁, e₂, e₃, e₄, e₅, e₆⟩ := hk
    exact ⟨j, hj, e₆ ▸ hpw, e₁.trans h₁, e₂.trans h₂, e₃.trans h₃, e₄.trans h₄, e₅.trans h₅⟩
  · trivial

end Narrows

section Acts

variable {src : Source} {tk dr : Multiset TransferRequest} {s t : Master}

/-- Every act but two sends no `ZONE_TRANSFER_RESPONSE`; those two, of sources that narrow,
answer for a public instance that held the affirmed request, or for the private instance
whose password the message presents. -/
theorem admits_act (h : Act src tk dr s t) :
    Appends (fun e => isZoneTransferResponse e = false ∨
      src.narrows = true ∧ (Public s → Admits s src.presented e)) s t := by
  cases h with
  | affirmTransfer hi hr =>
    exact .of_single rfl (.inr ⟨rfl, fun hp =>
      ⟨_, hi, .inl (hp _ hi (List.ne_nil_of_mem hr)), rfl, rfl, rfl, rfl, rfl⟩⟩)
  | answerPrivateZone hi =>
    unfold findPrivateInstance at hi
    have hpw := List.find?_some hi
    rw [beq_iff_eq] at hpw
    exact .of_single rfl (.inr ⟨rfl, fun _ =>
      ⟨_, List.mem_of_find?_eq_some hi, .inr hpw, rfl, rfl, rfl, rfl, rfl⟩⟩)
  | readyInstance =>
    rw [readyInstance_eq]
    exact ⟨_, rfl, fun e he => by obtain ⟨r, -, rfl⟩ := List.mem_map.mp he; exact .inl rfl⟩
  | setSessionKey s k u =>
    obtain ⟨es, he, hb⟩ := setSessionKey_frame s k.toNat u
    exact ⟨es, congrArg Master.effects he, fun e h => hb e h ▸ .inl rfl⟩
  | reply _ _ msg h => exact .of_single rfl (.inl (by cases msg <;> first | rfl | cases h))
  | _ => first | exact .of_effects_eq rfl | exact .of_single rfl (.inl rfl)

/-- The acts of a source that narrows add no instance and no affirmation. -/
theorem narrows_act (h : Act src tk dr s t) (hn : src.narrows = true) : Narrows s t := by
  cases h with
  | launch _ _ _ _ hl => cases hl.symm.trans (Source.quiet_of_narrows hn).1
  | enqueue _ _ _ _ ha => cases (Source.quiet_of_narrows hn).2 ▸ ha
  | requestAffirmation _ _ _ ha => cases (Source.quiet_of_narrows hn).2 ▸ ha
  | removePeer => exact .of_removeInstance _ _
  | changePlayers =>
    refine .of_modify _ _ ?_
    exact fun _ => ⟨rfl, fun _ h => h⟩
  | affirmTransfer =>
    refine (Narrows.of_modify _ _ ?_).emit _
    exact fun _ => ⟨rfl, fun _ => List.mem_of_mem_erase⟩
  | _ => first | exact .of_instances_eq rfl | cases hn

/-- A chain of acts of a source that does not narrow sends no `ZONE_TRANSFER_RESPONSE`. -/
theorem quiet_acts (h : Acts src tk dr s t) (hn : src.narrows = false) :
    Appends (fun e => isZoneTransferResponse e = false) s t :=
  h.lift Appends.refl (fun h₁ h₂ => h₁.trans h₂) fun ha =>
    (admits_act ha).mono fun _ he => he.elim id fun h => absurd (hn.symm.trans h.1) Bool.false_ne_true

/-- A chain of acts of a source that narrows, from a state where only public instances
hold affirmations, lets clients only into instances of its first state. -/
theorem admits_acts (h : Acts src tk dr s t) (hn : src.narrows = true) (hp : Public s) :
    Appends (Admits s src.presented) s t ∧ Narrows s t :=
  h.lift (R := fun s t => Public s → Appends (Admits s src.presented) s t ∧ Narrows s t)
    (fun s _ => ⟨.refl s, .refl s⟩)
    (fun h₁ h₂ hp =>
      let ⟨a₁, n₁⟩ := h₁ hp
      let ⟨a₂, n₂⟩ := h₂ (n₁.public hp)
      ⟨a₁.trans (a₂.mono fun _ he => n₁.admits he), n₁.trans n₂⟩)
    (fun ha hp => ⟨(admits_act ha).mono fun _ he => he.elim (fun hq => .of_quiet hq _ _)
      fun h => h.2 hp, narrows_act ha hn⟩) hp

end Acts

/-- The master `switch` sends a `ZONE_TRANSFER_RESPONSE` only for a public instance that
held the request it answers, or for the private instance whose password the message
presents. -/
theorem handleMasterMessage_admits {s : Master} (hp : Public s) (addr : SysAddr)
    (m : MasterMessage) : Appends (Admits s (presented m)) s (handleMasterMessage s addr m) := by
  have hm := handleMasterMessage_acts s addr m
  cases hn : (Source.message addr m).narrows
  · exact (quiet_acts hm hn).mono fun _ he => .of_quiet he _ _
  · exact (admits_acts hm hn hp).1

/-- The timeout pass sends no `ZONE_TRANSFER_RESPONSE`. -/
theorem checkAffirmation_quiet (s : Master) (h : Nat) :
    Appends (fun e => isZoneTransferResponse e = false) s (checkAffirmation s h).1 := by
  unfold checkAffirmation redirectPendingRequests
  split
  · exact .refl s
  · dsimp only
    split
    · refine Appends.trans ?_ (quiet_acts (redirect_acts _ _ _ fun _ h => h) rfl)
      exact .of_single rfl rfl
    · exact .of_effects_eq rfl

/-- A step of the master lets clients into public instances only, unless it handles a
packet whose master message presents a password. -/
theorem step_admits {s s' : Master} (hs : Reachable s) (hst : Step s s') :
    ∃ pw, Appends (Admits s pw) s s' ∧
      (pw = none ∨ ∃ p : Packet, s' = handlePacket s p ∧
        ∃ m, p.master = some m ∧ pw = presented m) := by
  have quiet : ∀ {t : Master}, Appends (fun e => isZoneTransferResponse e = false) s t →
      ∃ pw, Appends (Admits s pw) s t ∧ (pw = none ∨ ∃ p : Packet, t = handlePacket s p ∧
        ∃ m, p.master = some m ∧ pw = presented m) :=
    fun h => ⟨none, h.mono fun _ he => .of_quiet he _ _, .inl rfl⟩
  cases hst with
  | dispatch p =>
    obtain ⟨ps, hh⟩ := Reachable.history hs
    obtain ⟨hn, hnar⟩ :=
      admits_acts (handleNotification_acts s p.systemAddress p.notification) rfl hh.routed.public
    unfold handlePacket
    split
    · rename_i m hm
      refine ⟨presented m, ?_, .inr ⟨p, by rw [hm], m, hm, rfl⟩⟩
      exact (hn.mono fun _ he => he.of_none).trans
        ((handleMasterMessage_admits (hnar.public hh.routed.public) _ m).mono fun _ he =>
          hnar.admits he)
    · exact ⟨none, hn, .inl rfl⟩
  | countdown => exact quiet (.of_effects_eq (by unfold countdown; split <;> rfl))
  | check h => exact quiet (checkAffirmation_quiet s h)
  | reap h =>
    refine quiet ?_
    unfold reapInstance
    repeat' split
    all_goals exact .of_effects_eq rfl
  | shutdownInstances =>
    exact quiet (.of_emit _ fun _ he => by obtain ⟨_, -, rfl⟩ := List.mem_map.mp he; rfl)

/-- **Private zones are entered only by password.** From every reachable state, each
`ZONE_TRANSFER_RESPONSE` a step of the master sends names a registered instance, by map,
instance, clone, address and port, that is public, unless the step handles a
`REQUEST_PRIVATE_ZONE` whose password, as a C string, is the instance's. -/
theorem step_zoneTransferResponse_admitted {s s' : Master} (hs : Reachable s) (hst : Step s s') :
    ∃ new, s'.effects = s.effects ++ new ∧
      ∀ a rid shift mapID instanceID cloneID ip port,
        Effect.send a (.zoneTransferResponse rid shift mapID instanceID cloneID ip port) ∈ new →
          ∃ i ∈ s.instances, i.mapID = mapID ∧ i.instanceID = instanceID ∧
            i.cloneID = cloneID ∧ i.ip = ip ∧ i.port = port ∧
            (i.privatePassword = none ∨ ∃ p : Packet, s' = handlePacket s p ∧
              ∃ requestID mythranShift password,
                p.master = some (.requestPrivateZone requestID mythranShift password) ∧
                i.privatePassword = some (cStr password)) := by
  obtain ⟨pw, ⟨new, he, hadm⟩, hpw⟩ := step_admits hs hst
  refine ⟨new, he, fun a rid shift mapID instanceID cloneID ip port hm => ?_⟩
  obtain ⟨i, hi, hpriv, h₁, h₂, h₃, h₄, h₅⟩ := hadm _ hm
  refine ⟨i, hi, h₁, h₂, h₃, h₄, h₅, ?_⟩
  rcases hpriv with hpub | hip
  · exact .inl hpub
  rcases hpw with rfl | ⟨p, rfl, m, hpm, rfl⟩
  · exact .inl hip
  · cases m
    all_goals first | exact .inl hip | exact .inr ⟨p, rfl, _, _, _, hpm, hip⟩

/-- A private zone is created with the password "a" and then joined with it. -/
theorem private_zone_joined_by_password :
    let s : Master :=
      handlePacket (startup "" true) ⟨⟨1, 1⟩, none, some (.createPrivateZone 1200 0 [97])⟩
    let s' : Master := handlePacket s ⟨⟨2, 2⟩, none, some (.requestPrivateZone 9 0 [97])⟩
    ∃ new, s'.effects = s.effects ++ new ∧
      ∀ a rid shift mapID instanceID cloneID ip port,
        Effect.send a (.zoneTransferResponse rid shift mapID instanceID cloneID ip port) ∈ new →
          ∃ i ∈ s.instances, i.mapID = mapID ∧ i.instanceID = instanceID ∧
            i.cloneID = cloneID ∧ i.ip = ip ∧ i.port = port ∧
            (i.privatePassword = none ∨ ∃ p : Packet, s' = handlePacket s p ∧
              ∃ requestID mythranShift password,
                p.master = some (.requestPrivateZone requestID mythranShift password) ∧
                i.privatePassword = some (cStr password)) :=
  step_zoneTransferResponse_admitted (.step (.startup _ _) (.dispatch _ _)) (.dispatch _ _)

end MasterServer.ZoneAccess
