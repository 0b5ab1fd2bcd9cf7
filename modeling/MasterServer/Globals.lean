import MasterServer.Evolution

/-!
# What the instance manager leaves alone

The globals of `MasterServer.cpp` (`activeSessions`, `shouldShutdown`,
`chatServerMasterPeerSysAddr`, the universe-shutdown frame count) are written by three
cases of `HandlePacket` only: `SET_SESSION_KEY`, `SHUTDOWN_UNIVERSE` and `SERVER_INFO`.
Every other act, the timeout and reaping passes and the shutdown broadcast leave them alone.
-/

namespace MasterServer

open Master

/-- `s'` agrees with `s` on the globals outside the instance manager. -/
structure SameGlobals (s s' : Master) : Prop where
  activeSessions : s'.activeSessions = s.activeSessions
  shouldShutdown : s'.shouldShutdown = s.shouldShutdown
  chatServerMasterPeerSysAddr : s'.chatServerMasterPeerSysAddr = s.chatServerMasterPeerSysAddr
  framesSinceKillUniverseCommand :
    s'.framesSinceKillUniverseCommand = s.framesSinceKillUniverseCommand

theorem SameGlobals.refl (s : Master) : SameGlobals s s := ⟨rfl, rfl, rfl, rfl⟩

theorem SameGlobals.trans {s₁ s₂ s₃ : Master} (h₁ : SameGlobals s₁ s₂) (h₂ : SameGlobals s₂ s₃) :
    SameGlobals s₁ s₃ :=
  ⟨h₂.1.trans h₁.1, h₂.2.trans h₁.2, h₂.3.trans h₁.3, h₂.4.trans h₁.4⟩

/-- The sources whose acts may write a global. -/
def Source.writesGlobals : Source → Bool
  | .message _ (.setSessionKey ..) | .message _ .shutdownUniverse | .message _ (.serverInfo ..) =>
    true
  | _ => false

/-- Every act of a source that writes no global leaves the globals alone. -/
theorem Act.sameGlobals {src : Source} {tk dr : Multiset TransferRequest} {s s' : Master}
    (h : Act src tk dr s s') (hw : src.writesGlobals = false) : SameGlobals s s' := by
  cases h
  case setSessionKey | shutdownUniverse | registerWorld | setSysAddr | rememberChatServer =>
    simp [Source.writesGlobals] at hw
  case readyInstance => rw [readyInstance_eq]; exact ⟨rfl, rfl, rfl, rfl⟩
  all_goals exact ⟨rfl, rfl, rfl, rfl⟩

theorem Acts.sameGlobals {src : Source} {tk dr : Multiset TransferRequest} {s s' : Master}
    (h : Acts src tk dr s s') (hw : src.writesGlobals = false) : SameGlobals s s' :=
  h.lift SameGlobals.refl (fun h₁ h₂ => h₁.trans h₂) fun h => h.sameGlobals hw

theorem checkAffirmation_sameGlobals (s : Master) (h : Nat) :
    SameGlobals s (checkAffirmation s h).1 := by
  unfold checkAffirmation redirectPendingRequests
  split
  · exact .refl s
  · dsimp only
    split
    · refine SameGlobals.trans ?_ ((redirect_acts _ _ _ fun _ h => h).sameGlobals rfl)
      exact ⟨rfl, rfl, rfl, rfl⟩
    · exact ⟨rfl, rfl, rfl, rfl⟩

theorem reapInstance_sameGlobals (s : Master) (h : Nat) : SameGlobals s (reapInstance s h) := by
  unfold reapInstance
  repeat' split
  all_goals exact ⟨rfl, rfl, rfl, rfl⟩

theorem handleNotification_sameGlobals (s : Master) (addr : SysAddr) (n : Option Notification) :
    SameGlobals s (handleNotification s addr n) :=
  (handleNotification_acts s addr n).sameGlobals rfl

/-- The cases of `HandlePacket` other than `SET_SESSION_KEY`, `SERVER_INFO` and
`SHUTDOWN_UNIVERSE` leave the globals alone. -/
theorem handleMasterMessage_sameGlobals (s : Master) (addr : SysAddr) (m : MasterMessage)
    (hm : (Source.message addr m).writesGlobals = false) :
    SameGlobals s (handleMasterMessage s addr m) :=
  (handleMasterMessage_acts s addr m).sameGlobals hm

theorem serverInfo_activeSessions (s : Master) (addr : SysAddr) (port zoneID instanceID : Nat)
    (t : ServerType) (ip : String) :
    (serverInfo s addr port zoneID instanceID t ip).activeSessions = s.activeSessions := by
  unfold serverInfo rememberChatServer registerServer
  repeat' split
  all_goals rfl

/-- A step either leaves the session registry alone or is a `SET_SESSION_KEY` on a state
with the same registry. -/
theorem Step.activeSessions {s s' : Master} (h : Step s s') :
    s'.activeSessions = s.activeSessions ∨
      ∃ s₀ k u, s₀.activeSessions = s.activeSessions ∧ s' = setSessionKey s₀ k u := by
  cases h with
  | dispatch p =>
    obtain ⟨addr, n, _ | m⟩ := p
    · exact .inl (handleNotification_sameGlobals s addr n).1
    have hn := (handleNotification_sameGlobals s addr n).1
    cases m with
    | setSessionKey k u => exact .inr ⟨_, k.toNat, u, hn, rfl⟩
    | serverInfo => exact .inl ((serverInfo_activeSessions ..).trans hn)
    | shutdownUniverse => exact .inl hn
    | _ => exact .inl ((handleMasterMessage_sameGlobals _ _ _ (by rfl)).1.trans hn)
  | countdown => left; unfold MasterServer.countdown; split <;> rfl
  | check h => exact .inl (checkAffirmation_sameGlobals s h).1
  | reap h => exact .inl (reapInstance_sameGlobals s h).1
  | shutdownInstances => exact .inl rfl

end MasterServer
