import MasterServer.Globals

/-!
# The drain of `ShutdownSequence`

After `SHUTDOWN` has gone to every instance, the drain loop (lines 857-894) hands whatever
`Receive` returns to `HandlePacket`, with no guard. Its iteration `k` launches a world only
if it received a zone resolution or a private zone, starts the chat server only on a
transport event of the chat peer while `shouldShutdown` is false, and grows the registry only
on those messages or `SERVER_INFO`; an instance it adds is not sent the broadcast `SHUTDOWN`.
-/

namespace MasterServer

open Master

/-- `Instance::Launch` of a world. -/
def isLaunchWorld : Effect → Bool
  | .launchWorld .. => true
  | _ => false

/-- Whether the acts of a source may register an instance. -/
def Source.registers : Source → Bool
  | .message _ m => MasterServer.registers m
  | .redirect _ => true
  | .event _ => false

/-- An act launches a world only if its source may launch one, and starts the chat server
only on a transport event of the chat peer while no universe shutdown is pending. -/
theorem Act.spawns {src : Source} {tk dr : Multiset TransferRequest} {s t : Master}
    (h : Act src tk dr s t) :
    Appends (fun e => (isLaunchWorld e = true → src.launches = true) ∧
      (e = .startChatServer →
        src = .event s.chatServerMasterPeerSysAddr ∧ s.shouldShutdown = false)) s t := by
  cases h
  case launch hl => exact .of_single rfl ⟨fun _ => hl, nofun⟩
  case restartChatServer ha hs => exact .of_single rfl ⟨nofun, fun _ => ⟨ha ▸ rfl, hs⟩⟩
  case readyInstance =>
    rw [readyInstance_eq]
    exact ⟨_, rfl, fun e he => by obtain ⟨r, -, rfl⟩ := List.mem_map.mp he; exact ⟨nofun, nofun⟩⟩
  case setSessionKey _ k u =>
    obtain ⟨es, he, hb⟩ := setSessionKey_frame s k.toNat u
    exact ⟨es, congrArg Master.effects he, fun e h => hb e h ▸ ⟨nofun, nofun⟩⟩
  all_goals first
    | exact .of_effects_eq rfl
    | exact .of_single rfl ⟨nofun, nofun⟩

/-- Only a source that may register moves the next handle. -/
theorem Act.nextHandle_eq {src : Source} {tk dr : Multiset TransferRequest} {s t : Master}
    (h : Act src tk dr s t) (hr : src.registers = false) : t.nextHandle = s.nextHandle := by
  cases h
  case launch hl =>
    cases src <;> simp_all [Source.launches, Source.registers, registers]
  case registerWorld => simp [Source.registers, registers] at hr
  case readyInstance => rw [readyInstance_eq]; rfl
  case setSessionKey _ k u =>
    obtain ⟨_, he, -⟩ := setSessionKey_frame s k.toNat u
    rw [he]
  all_goals rfl

/-- An act of a transport event launches nothing, starts the chat server only for the chat
peer while no universe shutdown is pending, and keeps both and the next handle. -/
theorem Act.event_frame {addr : SysAddr} {tk dr : Multiset TransferRequest} {s t : Master}
    (h : Act (.event addr) tk dr s t) :
    Frame (fun e => isLaunchWorld e = false ∧
        (e = .startChatServer → addr = s.chatServerMasterPeerSysAddr ∧ s.shouldShutdown = false))
      (fun s => (s.chatServerMasterPeerSysAddr, s.shouldShutdown, s.nextHandle)) s t := by
  have hg := h.sameGlobals rfl
  refine ⟨h.spawns.mono fun e ⟨hl, hc⟩ => ⟨Bool.eq_false_iff.mpr fun h' => absurd (hl h') Bool.false_ne_true,
    fun he => ⟨Source.event.inj (hc he).1, (hc he).2⟩⟩, ?_⟩
  rw [hg.chatServerMasterPeerSysAddr, hg.shouldShutdown, h.nextHandle_eq rfl]

/-- The transport blocks launch nothing and keep the next handle; a chat server they start is
for a notification from the chat peer, while no universe shutdown is pending. -/
theorem handleNotification_spawns (s : Master) (addr : SysAddr) (n : Option Notification) :
    Appends (fun e => isLaunchWorld e = false ∧ (e = .startChatServer →
        n.isSome ∧ addr = s.chatServerMasterPeerSysAddr ∧ s.shouldShutdown = false)) s
      (handleNotification s addr n) ∧
    (handleNotification s addr n).nextHandle = s.nextHandle := by
  cases n with
  | none => exact ⟨.refl s, rfl⟩
  | some n =>
    have hf := Frame.of_acts (g := fun s => (s.chatServerMasterPeerSysAddr, s.shouldShutdown, s.nextHandle))
      (P := fun (c : SysAddr × Bool × Nat) e =>
        isLaunchWorld e = false ∧ (e = .startChatServer → addr = c.1 ∧ c.2.1 = false))
      Act.event_frame (handleNotification_acts s addr (some n))
    exact ⟨hf.appends.mono fun e ⟨hl, hc⟩ => ⟨hl, fun he => ⟨rfl, hc he⟩⟩,
      congrArg (·.2.2) hf.keeps⟩

/-- A case of `HandlePacket` launches a world only if it resolves a zone or creates a
private one, never starts the chat server, and grows the registry only if it can register. -/
theorem handleMasterMessage_spawns (s : Master) (addr : SysAddr) (m : MasterMessage) :
    Appends (fun e => (isLaunchWorld e = true → launchesWorld m = true) ∧ e ≠ .startChatServer)
        s (handleMasterMessage s addr m) ∧
      ((handleMasterMessage s addr m).nextHandle ≠ s.nextHandle → registers m = true) := by
  have h := handleMasterMessage_acts s addr m
  refine ⟨h.lift Appends.refl (·.trans ·) fun ha => ha.spawns.mono fun e ⟨hl, hc⟩ =>
    ⟨hl, fun he => nomatch (hc he).1⟩, fun hn => ?_⟩
  cases hr : registers m
  · exact absurd (h.lift (R := fun s t => t.nextHandle = s.nextHandle) (fun _ => rfl)
      (fun h₁ h₂ => h₂.trans h₁) fun (ha : Act (.message addr m) _ _ _ _) => ha.nextHandle_eq hr) hn
  · rfl

namespace Drain

/-- Iteration `k` of the drain received a zone resolution or a private zone. -/
def LaunchesAt (σ : Nat → Option Packet) (k : Nat) : Prop :=
  ∃ p m, σ k = some p ∧ p.master = some m ∧ launchesWorld m = true

/-- Iteration `k` of the drain received a message that can grow the registry. -/
def RegistersAt (σ : Nat → Option Packet) (k : Nat) : Prop :=
  ∃ p m, σ k = some p ∧ p.master = some m ∧ registers m = true

/-- Iteration `k`, begun in `s`, received a transport event of the chat peer while no
universe shutdown was pending (lines 384-386 and 400-402). -/
def RestartsChatAt (σ : Nat → Option Packet) (k : Nat) (s : Master) : Prop :=
  ∃ p, σ k = some p ∧ p.notification.isSome ∧
    p.systemAddress = s.chatServerMasterPeerSysAddr ∧ s.shouldShutdown = false

/-- What iteration `k` of the drain, from `s` to `s'`, may spawn or register, and on what. -/
structure SpawnsAt (σ : Nat → Option Packet) (k : Nat) (s s' : Master) : Prop where
  appends : Appends (fun e => (isLaunchWorld e = true → LaunchesAt σ k) ∧
    (e = .startChatServer → RestartsChatAt σ k s)) s s'
  registers : s'.nextHandle ≠ s.nextHandle → RegistersAt σ k

/-- One iteration spawns or registers only on what it received. -/
theorem dispatch_spawns (s : Master) (σ : Nat → Option Packet) (k : Nat) :
    SpawnsAt σ k s (dispatch s (σ k)) := by
  cases hk : σ k with
  | none => exact ⟨.refl s, fun h => absurd rfl h⟩
  | some p =>
    obtain ⟨addr, n, _ | m⟩ := p
    all_goals obtain ⟨hn, hh⟩ := handleNotification_spawns s addr n
    all_goals have hn' := hn.mono (Q := fun e => (isLaunchWorld e = true → LaunchesAt σ k) ∧
      (e = .startChatServer → RestartsChatAt σ k s)) fun e ⟨hl, hc⟩ =>
        ⟨fun h => absurd h (by simp [hl]), fun he => ⟨_, hk, (hc he).1, (hc he).2⟩⟩
    · exact ⟨hn', fun h => absurd hh h⟩
    obtain ⟨ha, hr⟩ := handleMasterMessage_spawns (handleNotification s addr n) addr m
    exact ⟨hn'.trans (ha.mono fun e ⟨hl, hc⟩ => ⟨fun h => ⟨_, m, hk, rfl, hl h⟩, fun he => absurd he hc⟩),
      fun h => ⟨_, m, hk, rfl, hr (hh ▸ h)⟩⟩

/-- The state after the first `k` iterations of a drain begun in `s`, had it not stopped. -/
def drainState (σ : Nat → Option Packet) (s : Master) : Nat → Master
  | 0 => s
  | k + 1 => dispatch (drainState σ s k) (σ k)

/-- The drain loop stops within its `fuel` iterations. -/
theorem drainLoop_eq_drainState (σ : Nat → Option Packet) (s : Master) :
    ∀ (fuel ticks : Nat), ∃ n ≤ fuel,
      drainLoop σ ticks (drainState σ s ticks) fuel = drainState σ s (ticks + n)
  | 0, ticks => ⟨0, le_rfl, rfl⟩
  | fuel + 1, ticks => by
    obtain ⟨n, hn, he⟩ := drainLoop_eq_drainState σ s fuel (ticks + 1)
    simp only [drainLoop]
    split
    · exact ⟨1, by omega, rfl⟩
    · exact ⟨n + 1, by omega, he.trans (by rw [Nat.add_right_comm, Nat.add_assoc])⟩

/-- `ShutdownSequence` sends `SHUTDOWN` to every instance registered when it begins, before
anything its drain does; the drain stops within 3600 iterations, and each iteration launches
a world only if it received a zone resolution or a private zone, starts the chat server only
on a transport event of the chat peer while no universe shutdown is pending, and grows the
registry only if it received such a message or `SERVER_INFO`. -/
theorem shutdownSequence_spawns (s : Master) (σ : Nat → Option Packet) :
    (shutdownInstances s).effects = s.effects ++ s.instances.map Instance.shutdown ∧
      (∃ n ≤ 3600, shutdownSequence s σ = drainState σ (shutdownInstances s) n) ∧
      ∀ k, SpawnsAt σ k (drainState σ (shutdownInstances s) k)
        (drainState σ (shutdownInstances s) (k + 1)) := by
  obtain ⟨n, hn, he⟩ := drainLoop_eq_drainState σ (shutdownInstances s) 3600 0
  exact ⟨rfl, ⟨n, hn, by simpa using he⟩, fun k => dispatch_spawns _ σ k⟩

/-- A drain that receives nothing more leaves the state alone. -/
theorem drainLoop_of_idle (σ : Nat → Option Packet) :
    ∀ (fuel ticks : Nat) (s : Master), (∀ k, ticks ≤ k → σ k = none) →
      drainLoop σ ticks s fuel = s
  | 0, _, _, _ => rfl
  | fuel + 1, ticks, s, h => by
    simp only [drainLoop, h ticks le_rfl, dispatch,
      drainLoop_of_idle σ fuel (ticks + 1) s fun k hk => h k (by omega), ite_self]

/-- A drain that receives nothing after its first `n` iterations ends where they left it. -/
theorem drainLoop_idle_after (σ : Nat → Option Packet) :
    ∀ (n fuel ticks : Nat) (s : Master), (∀ k, ticks + n ≤ k → σ k = none) →
      drainLoop σ ticks s (n + fuel) = drainLoop σ ticks s n
  | 0, fuel, ticks, s, h => by rw [Nat.zero_add, drainLoop_of_idle σ fuel ticks s h]; rfl
  | n + 1, fuel, ticks, s, h => by
    rw [Nat.add_right_comm]
    simp only [drainLoop, drainLoop_idle_after σ n fuel (ticks + 1) _ fun k hk => h k (by omega)]

/-- With the chat server known at (5, 5), a drain that receives a transfer to map 1200 and
then the chat server's disconnection launches world 2, which no `SHUTDOWN` reaches, and
starts a chat server. -/
theorem drain_spawns_world_and_chat :
    let s : Master := handlePacket (startup "10.0.0.1" true)
      ⟨⟨5, 5⟩, none, some (.serverInfo 2000 0 0 .chat "10.0.0.1")⟩
    let s' : Master := shutdownSequence s fun k =>
      if k = 0 then some ⟨⟨7, 7⟩, none, some (.requestZoneTransfer 9 0 1200 0)⟩
      else if k = 1 then some ⟨⟨5, 5⟩, some .disconnection, none⟩ else none
    s'.instances.map (·.handle) = [0, 1, 2] ∧
      s'.effects = [.startChatServer, .launchWorld 0 "10.0.0.1" 1 0 1 0 12,
        .launchWorld 1 "10.0.0.1" 2 1000 2 0 12, .startAuthServer,
        .shutdown 0 .unassigned, .shutdown 1 .unassigned,
        .launchWorld 2 "10.0.0.1" 3 1200 3 0 12, .startChatServer] := by
  intro s s'
  rw [show s' = drainLoop _ 0 (shutdownInstances s) (2 + 3598) from rfl,
    drainLoop_idle_after _ 2 3598 0 _ ?_]
  · decide
  · intro k hk
    rw [if_neg (by omega), if_neg (by omega)]

end Drain

end MasterServer
