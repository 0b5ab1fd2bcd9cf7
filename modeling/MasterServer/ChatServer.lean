import MasterServer.Drain

/-!
# No chat restart after a universe shutdown

The transport blocks restart the chat server only `if (... && !shouldShutdown)` (lines 384
and 400), `SHUTDOWN_UNIVERSE` sets `shouldShutdown` and nothing clears it, and no other act
starts a chat server. So once a universe shutdown has been handled, no run of the master
starts a chat server again.
-/

namespace MasterServer.ChatServer

open Master Relation

/-- `s'` appended no start of a chat server to the effects of `s`. -/
abbrev NoRestart (s s' : Master) : Prop := Appends (fun e => e ≠ .startChatServer) s s'

/-- While a universe shutdown is pending, an act keeps it pending and starts no chat
server. -/
theorem noRestart_of_act {src : Source} {tk dr : Multiset TransferRequest} {s t : Master}
    (h : Act src tk dr s t) (hs : s.shouldShutdown = true) :
    t.shouldShutdown = true ∧ NoRestart s t := by
  refine ⟨?_, h.spawns.mono fun e ⟨_, hc⟩ he => Bool.false_ne_true ((hc he).2.symm.trans hs)⟩
  cases h with
  | shutdownUniverse => rfl
  | setSessionKey s k u =>
    obtain ⟨_, he, -⟩ := setSessionKey_frame s k.toNat u
    rw [he]
    exact hs
  | readyInstance => rw [readyInstance_eq]; exact hs
  | _ => exact hs

theorem noRestart_of_acts {src : Source} {tk dr : Multiset TransferRequest} {s t : Master}
    (h : Acts src tk dr s t) (hs : s.shouldShutdown = true) :
    t.shouldShutdown = true ∧ NoRestart s t :=
  h.lift (R := fun s t => s.shouldShutdown = true → t.shouldShutdown = true ∧ NoRestart s t)
    (fun s hs => ⟨hs, .refl s⟩)
    (fun h₁ h₂ hs => ⟨(h₂ (h₁ hs).1).1, (h₁ hs).2.trans (h₂ (h₁ hs).1).2⟩)
    (fun h => noRestart_of_act h) hs

/-- One step from a state with a universe shutdown pending keeps it pending and starts no
chat server. -/
theorem step_noRestart {s s' : Master} (hst : Step s s') (hs : s.shouldShutdown = true) :
    s'.shouldShutdown = true ∧ NoRestart s s' := by
  cases hst with
  | dispatch p =>
    have hn := noRestart_of_acts (handleNotification_acts s p.systemAddress p.notification) hs
    unfold handlePacket
    split
    · rename_i m _
      have hm := noRestart_of_acts (handleMasterMessage_acts _ p.systemAddress m) hn.1
      exact ⟨hm.1, hn.2.trans hm.2⟩
    · exact hn
  | countdown => unfold countdown; split <;> exact ⟨hs, .of_effects_eq rfl⟩
  | check h =>
    refine ⟨(checkAffirmation_sameGlobals s h).2.trans hs, ?_⟩
    unfold checkAffirmation redirectPendingRequests
    split
    · exact .refl s
    · dsimp only
      split
      · refine Appends.trans ?_ (noRestart_of_acts (redirect_acts _ _ _ fun _ h => h) ?_).2
        exacts [.of_single rfl nofun, hs]
      · exact .of_effects_eq rfl
  | reap h =>
    refine ⟨(reapInstance_sameGlobals s h).2.trans hs, ?_⟩
    unfold reapInstance
    repeat' split
    all_goals exact .of_effects_eq rfl
  | shutdownInstances =>
    exact ⟨hs, .of_emit _ fun _ he => by obtain ⟨_, -, rfl⟩ := List.mem_map.mp he; nofun⟩

/-- **No chat restart after a universe shutdown.** Along every run of the master from a
state in which a `SHUTDOWN_UNIVERSE` has been handled, whatever packets arrive, chat peer
losses included, and whatever the passes do, no chat server is started. -/
theorem steps_no_chat_restart {s s' : Master} (h : ReflTransGen Step s s')
    (hs : s.shouldShutdown = true) :
    ∃ es, s'.effects = s.effects ++ es ∧ Effect.startChatServer ∉ es := by
  have : s'.shouldShutdown = true ∧ NoRestart s s' := by
    induction h with
    | refl => exact ⟨hs, .refl _⟩
    | tail _ hst ih =>
      obtain ⟨hs', hn⟩ := step_noRestart hst ih.1
      exact ⟨hs', ih.2.trans hn⟩
  obtain ⟨es, he, hn⟩ := this.2
  exact ⟨es, he, fun hm => hn _ hm rfl⟩

/-- The chat server registers from (5, 5); after `SHUTDOWN_UNIVERSE`, (5, 5) reports a lost
connection. -/
theorem no_chat_restart_after_universe :
    let s : Master := handlePacket
      (handlePacket (startup "" true) ⟨⟨5, 5⟩, none, some (.serverInfo 2000 0 0 .chat "")⟩)
      ⟨⟨1, 1⟩, none, some .shutdownUniverse⟩
    let s' : Master := handlePacket s ⟨⟨5, 5⟩, some .connectionLost, none⟩
    ∃ es, s'.effects = s.effects ++ es ∧ Effect.startChatServer ∉ es :=
  steps_no_chat_restart (.single (.dispatch _ _)) rfl

end MasterServer.ChatServer
