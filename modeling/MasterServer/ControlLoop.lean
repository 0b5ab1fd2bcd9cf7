import MasterServer.HandlePacket

/-!
# The control loop

`main`'s `while (true)` (lines 268-352) handles one received packet, counts down a universe
shutdown, then runs the affirmation-timeout and reaping passes over a snapshot of the
registry; `ShutdownSequence` (lines 827-897) sends `SHUTDOWN` and drains packets. `Step` is
the work between two points where a signal may strike, and `trace` one run of the loop.
-/

namespace MasterServer

open Master

/-- `Game::server->Receive()` returned `packet`: handle it if there is one. -/
def dispatch (s : Master) : Option Packet → Master
  | some p => handlePacket s p
  | none => s

/-- What the timeout pass saw of one instance at one tick: its `pendingAffirmations`
when the pass reached it, and whether the pass applied the wedge action to it. -/
structure PassRecord where
  handle : Nat
  pending : List TransferRequest
  wedged : Bool
  deriving DecidableEq, Repr

/-- Lines 321-327: the `uint32_t` counter counts a tick with affirmations pending and
resets on a tick without. -/
def Instance.nextAffirmationTimeout (i : Instance) : Nat :=
  if i.pendingAffirmations = [] then 0 else (i.affirmationTimeout + 1) % 2 ^ 32

theorem Instance.nextAffirmationTimeout_of_idle {i : Instance} (h : i.pendingAffirmations = []) :
    i.nextAffirmationTimeout = 0 := if_pos h

theorem Instance.nextAffirmationTimeout_of_busy {i : Instance} (h : i.pendingAffirmations ≠ [])
    (hc : i.affirmationTimeout < 1000) : i.nextAffirmationTimeout = i.affirmationTimeout + 1 := by
  rw [Instance.nextAffirmationTimeout, if_neg h, Nat.mod_eq_of_lt (by omega)]

/-- Lines 321-336 for one instance of the snapshot: store the new counter; at 1000
shut the instance down and redirect its requests. -/
def checkAffirmation (s : Master) (h : Nat) : Master × Option PassRecord :=
  match s.get? h with
  | none => (s, none)
  | some i =>
    let affirmTimeout := i.nextAffirmationTimeout
    let s := s.modify h fun j => { j with affirmationTimeout := affirmTimeout }
    if affirmTimeout = 1000 then
      let s := (s.emit [i.shutdown]).modify h fun j => { j with shuttingDown := true }
      (redirectPendingRequests s i, some ⟨h, i.pendingAffirmations, true⟩)
    else (s, some ⟨h, i.pendingAffirmations, false⟩)

/-- The affirmation-timeout loop over the snapshot `instances` (lines 316-337). -/
def affirmationPass (s : Master) : List Nat → Master × List PassRecord
  | [] => (s, [])
  | h :: hs =>
    let (s, r) := checkAffirmation s h
    let (s, rs) := affirmationPass s hs
    (s, r.toList ++ rs)

/-- Lines 345-347 for one instance of the snapshot. -/
def reapInstance (s : Master) (h : Nat) : Master :=
  match s.get? h with
  | some i => if i.shutdownComplete then s.removeInstance h else s
  | none => s

/-- The loop removing dead instances (lines 340-348). -/
def reapPass (s : Master) (instances : List Nat) : Master := instances.foldl reapInstance s

/-- Lines 306-312 when the loop does not break: count the frame of a pending
universe shutdown. -/
def countdown (s : Master) : Master :=
  if s.shouldShutdown then
    { s with framesSinceKillUniverseCommand := s.framesSinceKillUniverseCommand + 1 }
  else s

/-- One iteration of the loop: carry on with the new state and the timeout pass's
records, or break. -/
inductive LoopStep where
  | next (s : Master) (passes : List PassRecord)
  | exit (s : Master)

/-- The body of `main`'s `while (true)`, given what `Receive` returned. -/
def mainLoopBody (s : Master) (packet : Option Packet) : LoopStep :=
  let s := dispatch s packet
  if s.shouldShutdown = true ∧ 40000 ≤ s.framesSinceKillUniverseCommand then .exit s
  else
    let s := countdown s
    let instances := s.instances.map (·.handle)
    let (s, passes) := affirmationPass s instances
    .next (reapPass s instances) passes

/-- Lines 249-260: the state the loop starts from. With `prestart_servers` set, the
chat server, instances of maps 0 and 1000 marked ready, and the auth server. -/
def startup (externalIP : String) (prestart : Bool) : Master :=
  let s := Master.initial externalIP
  if prestart then
    let s := s.emit [.startChatServer]
    let (s, i) := getInstance s 0 0
    let s := s.modify i.handle fun j => { j with ready := true }
    let (s, i) := getInstance s 1000 0
    let s := s.modify i.handle fun j => { j with ready := true }
    s.emit [.startAuthServer]
  else s

/-- Lines 834-842 of `ShutdownSequence`: `Shutdown` on every registered instance. -/
def shutdownInstances (s : Master) : Master := s.emit (s.instances.map Instance.shutdown)

/-- Lines 870-879: every registered instance has reported `shutdownComplete`. -/
def allShutdownComplete (s : Master) : Bool := s.instances.all (·.shutdownComplete)

/-- The drain loop of `ShutdownSequence` (lines 857-894) from its iteration `ticks`, with
`fuel` iterations left before the 3600th: handle what `Receive` returned, and stop once
every instance has completed its shutdown. -/
def drainLoop (σ : Nat → Option Packet) (ticks : Nat) (s : Master) : Nat → Master
  | 0 => s
  | fuel + 1 =>
    let s := dispatch s (σ ticks)
    if allShutdownComplete s then s else drainLoop σ (ticks + 1) s fuel

/-- `ShutdownSequence` in the master's state, up to `FinalizeShutdown`: `SHUTDOWN` to every
instance, then the drain loop against what `Receive` returns. -/
def shutdownSequence (s : Master) (σ : Nat → Option Packet) : Master :=
  drainLoop σ 0 (shutdownInstances s) 3600

/-- The work the master does between two points where a signal can start
`ShutdownSequence`. -/
inductive Step : Master → Master → Prop
  | dispatch (s : Master) (p : Packet) : Step s (handlePacket s p)
  | countdown (s : Master) : Step s (countdown s)
  | check (s : Master) (h : Nat) : Step s (checkAffirmation s h).1
  | reap (s : Master) (h : Nat) : Step s (reapInstance s h)
  | shutdownInstances (s : Master) : Step s (shutdownInstances s)

/-- The states of the master: the startup states closed under `Step`. -/
inductive Reachable : Master → Prop
  | startup (externalIP : String) (prestart : Bool) : Reachable (startup externalIP prestart)
  | step {s s' : Master} : Reachable s → Step s s' → Reachable s'

/-- The loop with the master's state; `running` turns false when it breaks. -/
structure Loop where
  master : Master
  running : Bool

/-- One iteration of a running loop; a broken loop stays as it is. -/
def Loop.step (l : Loop) (packet : Option Packet) : Loop × List PassRecord :=
  if l.running then
    match mainLoopBody l.master packet with
    | .next s passes => (⟨s, true⟩, passes)
    | .exit s => (⟨s, false⟩, [])
  else (l, [])

/-- The loop after `n` iterations from `s0`, when the `k`-th `Receive` returns `σ k`. -/
def trace (s0 : Master) (σ : Nat → Option Packet) : Nat → Loop
  | 0 => ⟨s0, true⟩
  | n + 1 => ((trace s0 σ n).step (σ n)).1

/-- The timeout pass's records of iteration `n`. -/
def passes (s0 : Master) (σ : Nat → Option Packet) (n : Nat) : List PassRecord :=
  ((trace s0 σ n).step (σ n)).2

@[simp] theorem trace_zero (s0 : Master) (σ : Nat → Option Packet) : trace s0 σ 0 = ⟨s0, true⟩ :=
  rfl
@[simp] theorem trace_succ (s0 : Master) (σ : Nat → Option Packet) (n : Nat) :
    trace s0 σ (n + 1) = ((trace s0 σ n).step (σ n)).1 := rfl

end MasterServer
