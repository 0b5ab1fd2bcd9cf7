import MasterServer.Globals
import MasterServer.Timeout

/-!
# How the process ends

`ShutdownSequence` runs on a signal and from `exit` (lines 73-76). On a signal during setup
or the loop it is sound; on the universe path, and on a signal during its teardown, it runs
over handles `FinalizeShutdown` destroyed, and a return from `main` enters `exit` twice.
The loop takes the universe path 40000 iterations after the first `SHUTDOWN_UNIVERSE`.
-/

namespace MasterServer.Termination

/-- The handles `FinalizeShutdown` tears down: the database connection, `Game::config`,
`Game::im`, `Game::server` and `Game::logger`. -/
inductive Resource where
  | database
  | config
  | instanceManager
  | server
  | logger
  deriving DecidableEq, Repr

/-- What the process does with its handles. `sendShutdown h` is `Instance::Shutdown` on
the instance with handle `h`, which sends through `Game::server`; `saveObjectIDs` is
`ObjectIDManager::SaveToDatabase`. -/
inductive Event where
  | use (r : Resource)
  | destroy (r : Resource)
  | sendShutdown (handle : Nat)
  | saveObjectIDs
  | enterExit
  deriving DecidableEq, Repr

/-- The handles an event goes through; deleting goes through the handle deleted. -/
def Event.uses : Event → List Resource
  | .use r | .destroy r => [r]
  | .sendShutdown _ => [.server]
  | .saveObjectIDs => [.database]
  | .enterExit => []

/-- The handles an event tears down. -/
def Event.destroys : Event → List Resource
  | .destroy r => [r]
  | _ => []

/-- Scanning the events with the handles already torn down: none goes through a
handle torn down before it. -/
def safeAfter (gone : List Resource) : List Event → Bool
  | [] => true
  | e :: es => e.uses.all (· ∉ gone) && safeAfter (e.destroys ++ gone) es

/-- No handle is used after it was torn down, and none is torn down twice. -/
def MemorySafe (es : List Event) : Prop := safeAfter [] es = true

instance : DecidablePred MemorySafe := fun _ => inferInstanceAs (Decidable (_ = true))

/-- The process: the handles whose pointer is not null (for the database: connected),
whether the `ObjectIDManager` singleton exists, the handles of the instances
`Game::im` lists, the two flags, and what the process has done so far. -/
structure Process where
  held : List Resource
  objectIDManager : Bool
  instances : List Nat
  shutdownSequenceStarted : Bool
  exiting : Bool
  events : List Event
  deriving DecidableEq, Repr

/-- Append to what the process has done. -/
def Process.record (p : Process) (es : List Event) : Process := { p with events := p.events ++ es }

@[simp] theorem Process.record_events (p : Process) (es : List Event) :
    (p.record es).events = p.events ++ es := rfl
@[simp] theorem Process.record_held (p : Process) (es : List Event) :
    (p.record es).held = p.held := rfl
@[simp] theorem Process.record_objectIDManager (p : Process) (es : List Event) :
    (p.record es).objectIDManager = p.objectIDManager := rfl
@[simp] theorem Process.record_shutdownSequenceStarted (p : Process) (es : List Event) :
    (p.record es).shutdownSequenceStarted = p.shutdownSequenceStarted := rfl
@[simp] theorem Process.record_exiting (p : Process) (es : List Event) :
    (p.record es).exiting = p.exiting := rfl

/-- Lines 837-844: `Instance::Shutdown` on every instance `Game::im` lists. -/
def sendShutdowns (p : Process) : Process :=
  if .instanceManager ∈ p.held then
    p.record (.use .instanceManager :: p.instances.map .sendShutdown)
  else p

/-- Lines 846-850: save the persistent-ID high-water mark and log it. -/
def saveObjectIDs (p : Process) : Process :=
  if p.objectIDManager then p.record [.saveObjectIDs, .use .logger] else p

/-- Lines 855-894: the log line, then the drain loop, whose iterations take packets from
`Game::server` and ask `Game::im` for the instances, and which logs on the way out. -/
def drain (p : Process) : Process :=
  p.record [.use .logger, .use .server, .use .instanceManager, .use .logger]

/-- `FinalizeShutdown` (lines 899-909) up to its `exit`: `Database::Destroy`, then
`delete` on each handle that is not null, none of them set to null after. -/
def finalizeShutdownDeletes (p : Process) : Process :=
  p.record (.destroy .database ::
    ([.config, .instanceManager, .server, .logger].filter (· ∈ p.held)).map .destroy)

/-- `FinalizeShutdown`, with `exit` the `exit` it calls. -/
def finalizeShutdown (exit : Process → Process) (p : Process) : Process :=
  exit (finalizeShutdownDeletes p)

/-- `ShutdownSequence` (lines 827-897), with `exit` the `exit` it calls. -/
def shutdownSequence (exit : Process → Process) (p : Process) : Process :=
  if p.shutdownSequenceStarted then p
  else
    let p := saveObjectIDs (sendShutdowns { p with shutdownSequenceStarted := true })
    if .instanceManager ∈ p.held then finalizeShutdown exit (drain p) else exit p

/-- `exit` called while `exit` already runs the handlers: undefined behaviour, at which
the model stops. -/
def nestedExit (p : Process) : Process := p.record [.enterExit]

/-- `exit`: run the `atexit` handler `ShutdownSequence`, inside which every `exit` is
nested. -/
def exitProcess (p : Process) : Process :=
  if p.exiting then nestedExit p
  else shutdownSequence nestedExit ({ p with exiting := true }.record [.enterExit])

/-- SIGINT or SIGTERM: the handler runs `ShutdownSequence`. -/
def signal (p : Process) : Process := shutdownSequence exitProcess p

/-- Lines 351-353: the loop broke after the universe shutdown countdown. -/
def universeExit (p : Process) : Process := finalizeShutdown exitProcess p

/-- A `return` from `main`. -/
def returnFromMain (p : Process) : Process := exitProcess p

/-- Lines 218-221: the account path destroys the database and the logger, then returns. -/
def accountExit (p : Process) : Process :=
  returnFromMain (p.record [.destroy .database, .destroy .logger])

/-- How far `main` has got: the handle it created last during setup, the logger (line 79),
the configuration (84), the database connection (95), the server (227), the
`ObjectIDManager` (253) and the instance manager (254), after which come the prestart and
the loop; or, on the universe path, `FinalizeShutdown` after its first `k + 1` teardown calls
(all five from `k = 4`), before its `exit`. -/
inductive Stage where
  | none
  | logger
  | config
  | database
  | server
  | objectIDManager
  | instanceManager
  | finalizing (k : Nat)
  deriving DecidableEq, Repr

/-- The handles that are not null at a stage; `delete` leaves a pointer as it was. -/
def Stage.held : Stage → List Resource
  | .none => []
  | .logger => [.logger]
  | .config => [.logger, .config]
  | .database => [.logger, .config, .database]
  | .server | .objectIDManager => [.logger, .config, .database, .server]
  | .instanceManager | .finalizing _ => [.logger, .config, .database, .server, .instanceManager]

/-- Whether the `ObjectIDManager` singleton exists at a stage. -/
def Stage.hasObjectIDManager : Stage → Bool
  | .objectIDManager | .instanceManager | .finalizing _ => true
  | _ => false

/-- The teardown calls of `FinalizeShutdown` when every handle is held (lines 901-905). -/
def teardown : List Resource := [.database, .config, .instanceManager, .server, .logger]

/-- What the process has done at a stage: during the teardown, the calls made so far. -/
def Stage.events : Stage → List Event
  | .finalizing k => (teardown.take (k + 1)).map .destroy
  | _ => []

/-- The process at a stage, with the instances the instance manager holds. -/
def atStage (st : Stage) (instances : List Nat) : Process where
  held := st.held
  objectIDManager := st.hasObjectIDManager
  instances := instances
  shutdownSequenceStarted := false
  exiting := false
  events := st.events

/-- The teardown stages are the prefixes of what `FinalizeShutdown` does from the loop. -/
theorem finalizeShutdownDeletes_loop (instances : List Nat) :
    (finalizeShutdownDeletes (atStage .instanceManager instances)).events =
      teardown.map .destroy := rfl

theorem safeAfter_sendShutdowns (gone : List Resource) (hs : Resource.server ∉ gone)
    (hs' : List Nat) (es : List Event) :
    safeAfter gone (hs'.map .sendShutdown ++ es) = safeAfter gone es := by
  induction hs' with
  | nil => rfl
  | cons h hs' ih => simpa [safeAfter, Event.uses, Event.destroys, hs] using ih

/-- What a signal in the loop does: `SHUTDOWN` to every instance, the save, the drain,
the teardown, and one `exit`, whose `ShutdownSequence` returns at once. -/
theorem signal_running_events (instances : List Nat) :
    (signal (atStage .instanceManager instances)).events =
      .use .instanceManager :: instances.map .sendShutdown ++
        [.saveObjectIDs, .use .logger, .use .logger, .use .server, .use .instanceManager,
          .use .logger, .destroy .database, .destroy .config, .destroy .instanceManager,
          .destroy .server, .destroy .logger, .enterExit] := by
  simp [signal, shutdownSequence, sendShutdowns, saveObjectIDs, drain, finalizeShutdown,
    finalizeShutdownDeletes, exitProcess, atStage, Stage.held, Stage.hasObjectIDManager, Stage.events]

/-- A signal during the universe path's teardown adds what it adds from the loop. -/
theorem signal_finalizing_events (k : Nat) (instances : List Nat) :
    (signal (atStage (.finalizing k) instances)).events =
      (teardown.take (k + 1)).map .destroy ++ (signal (atStage .instanceManager instances)).events := by
  simp [signal, shutdownSequence, sendShutdowns, saveObjectIDs, drain, finalizeShutdown,
    finalizeShutdownDeletes, exitProcess, atStage, Stage.held, Stage.hasObjectIDManager, Stage.events]

/-- A handle torn down stays so: a later event through it makes the log unsafe. -/
theorem safeAfter_eq_false {r : Resource} :
    ∀ {gone : List Resource} {es : List Event}, r ∈ gone → (∃ e ∈ es, r ∈ e.uses) →
      safeAfter gone es = false
  | _, [], _, ⟨_, he, _⟩ => absurd he (List.not_mem_nil _)
  | gone, e :: es, hr, ⟨e', he', hu⟩ => by
    rw [safeAfter, Bool.and_eq_false_iff]
    rcases List.mem_cons.mp he' with rfl | he'
    · exact .inl (List.all_eq_false.mpr ⟨r, hu, by simpa using hr⟩)
    · exact .inr (safeAfter_eq_false (List.mem_append_right _ hr) ⟨e', he', hu⟩)

/-- An event through a handle the log destroyed before it makes the log unsafe. -/
theorem safeAfter_destroy_then_use {r : Resource} (gone : List Resource) (es : List Event)
    (h : ∃ e ∈ es, r ∈ e.uses) : safeAfter gone (.destroy r :: es) = false := by
  rw [safeAfter, Bool.and_eq_false_iff]
  exact .inr (safeAfter_eq_false (List.mem_cons_self r gone) h)

/-- A signal at any stage of `main`'s setup or any tick of the loop ends the process soundly:
every handle is used only while live and torn down at most once, `exit` runs once, and once
the instance manager exists every instance is sent `SHUTDOWN` and the persistent IDs are
saved. A signal during the universe path's teardown, before its `exit`, still enters `exit`
once but saves the persistent IDs through the destroyed database. -/
theorem signal_sound (st : Stage) (instances : List Nat) :
    (MemorySafe (signal (atStage st instances)).events ↔ ∀ k, st ≠ .finalizing k) ∧
      (signal (atStage st instances)).events.count .enterExit = 1 ∧
      (st = .instanceManager → (∀ h ∈ instances,
        .sendShutdown h ∈ (signal (atStage st instances)).events) ∧
        .saveObjectIDs ∈ (signal (atStage st instances)).events) := by
  cases st with
  | instanceManager =>
    rw [signal_running_events]
    refine ⟨iff_of_true ?_ fun _ => nofun, ?_, fun _ => ⟨fun h hh => by simp [hh], by simp⟩⟩
    · simp [MemorySafe, safeAfter, Event.uses, Event.destroys, safeAfter_sendShutdowns]
    · simp [List.count_cons, List.count_eq_zero]
  | finalizing k =>
    rw [signal_finalizing_events, signal_running_events, teardown, List.take_succ_cons,
      List.map_cons, List.cons_append]
    refine ⟨iff_of_false ?_ fun h => h k rfl, ?_, nofun⟩
    · rw [MemorySafe, safeAfter_destroy_then_use _ _ ⟨.saveObjectIDs, ?_, List.mem_singleton_self _⟩]
      · exact Bool.false_ne_true
      · simp
    · have h0 : Event.enterExit ∉
          (List.take k [Resource.config, .instanceManager, .server, .logger]).map .destroy :=
        fun h => by obtain ⟨_, -, h⟩ := List.mem_map.mp h; cases h
      rw [List.count_cons, List.count_append, List.count_eq_zero.mpr h0]
      simp [List.count_cons, List.count_eq_zero]
  | _ =>
    refine ⟨iff_of_true ?_ fun _ => nofun, ?_, fun h => absurd h (by decide)⟩ <;>
    simp [signal, shutdownSequence, sendShutdowns, saveObjectIDs, drain, finalizeShutdown,
      finalizeShutdownDeletes, exitProcess, nestedExit, atStage, Stage.held, MemorySafe,
      safeAfter, Event.uses, Event.destroys, Stage.hasObjectIDManager, Stage.events]

/-- After a universe shutdown with instances 0 and 1: the teardown comes first, and
the `exit` it calls runs `ShutdownSequence` over the deleted handles, tears everything
down again and calls `exit` from inside `exit`. -/
theorem universeExit_after_teardown :
    let es : List Event := (universeExit (atStage .instanceManager [0, 1])).events
    es = [.destroy .database, .destroy .config, .destroy .instanceManager, .destroy .server,
        .destroy .logger, .enterExit, .use .instanceManager, .sendShutdown 0, .sendShutdown 1,
        .saveObjectIDs, .use .logger, .use .logger, .use .server, .use .instanceManager,
        .use .logger, .destroy .database, .destroy .config, .destroy .instanceManager,
        .destroy .server, .destroy .logger, .enterExit] ∧
      ¬MemorySafe es ∧ es.count .enterExit = 2 := by
  decide

/-- `Receive` returned a `SHUTDOWN_UNIVERSE`. -/
def isUniverse : Option Packet → Bool
  | some p => p.master == some .shutdownUniverse
  | none => false

/-- No act counts a frame, and only that of `SHUTDOWN_UNIVERSE` writes the flag. -/
theorem keeps_countdown_of_act {src : Source} {tk dr : Multiset TransferRequest} {s t : Master}
    (h : Act src tk dr s t) (hu : ∀ addr, src ≠ .message addr .shutdownUniverse) :
    t.shouldShutdown = s.shouldShutdown ∧
      t.framesSinceKillUniverseCommand = s.framesSinceKillUniverseCommand := by
  cases h
  case shutdownUniverse addr => exact absurd rfl (hu addr)
  case setSessionKey _ k u =>
    obtain ⟨_, he, -⟩ := setSessionKey_frame s k.toNat u
    rw [he]
    exact ⟨rfl, rfl⟩
  case readyInstance => rw [readyInstance_eq]; exact ⟨rfl, rfl⟩
  all_goals exact ⟨rfl, rfl⟩

theorem handleMasterMessage_countdown (s : Master) (addr : SysAddr) (m : MasterMessage) :
    (handleMasterMessage s addr m).shouldShutdown = (s.shouldShutdown || m == .shutdownUniverse) ∧
      (handleMasterMessage s addr m).framesSinceKillUniverseCommand =
        s.framesSinceKillUniverseCommand := by
  by_cases hm : m = .shutdownUniverse
  · subst hm
    exact ⟨by simp [handleMasterMessage], rfl⟩
  · have h := (handleMasterMessage_acts s addr m).lift
      (R := fun s t => t.shouldShutdown = s.shouldShutdown ∧
        t.framesSinceKillUniverseCommand = s.framesSinceKillUniverseCommand)
      (fun _ => ⟨rfl, rfl⟩) (fun h₁ h₂ => ⟨h₂.1.trans h₁.1, h₂.2.trans h₁.2⟩)
      fun ha => keeps_countdown_of_act ha fun _ he => hm (Source.message.inj he).2
    simp [h, hm]

/-- Dispatch sets `shouldShutdown` on `SHUTDOWN_UNIVERSE` only and counts no frame. -/
theorem dispatch_countdown (s : Master) (p : Option Packet) :
    (dispatch s p).shouldShutdown = (s.shouldShutdown || isUniverse p) ∧
      (dispatch s p).framesSinceKillUniverseCommand = s.framesSinceKillUniverseCommand := by
  obtain _ | ⟨addr, n, _ | m⟩ := p
  · simp [dispatch, isUniverse]
  all_goals have hn := handleNotification_sameGlobals s addr n
  · simp [dispatch, handlePacket, isUniverse, hn.2, hn.4]
  · have hm := handleMasterMessage_countdown (handleNotification s addr n) addr m
    simp [dispatch, handlePacket, isUniverse, hm, hn.2, hn.4]

theorem affirmationPass_sameGlobals : ∀ (hs : List Nat) (s : Master),
    SameGlobals s (affirmationPass s hs).1
  | [], s => .refl s
  | h :: hs, s => (checkAffirmation_sameGlobals s h).trans (affirmationPass_sameGlobals hs _)

/-- A running iteration from flag `b` and count `f` breaks when the flag is set after
dispatch and 40000 frames are counted; otherwise it runs on and counts the frame if the
flag is set. -/
theorem step_countdown {l : Loop} (hl : l.running = true) (p : Option Packet) {b : Bool}
    {f : Nat} (hb : l.master.shouldShutdown = b) (hf : l.master.framesSinceKillUniverseCommand = f) :
    if (b || isUniverse p) = true ∧ 40000 ≤ f then (l.step p).1.running = false
    else (l.step p).1.running = true ∧ (l.step p).1.master.shouldShutdown = (b || isUniverse p) ∧
      (l.step p).1.master.framesSinceKillUniverseCommand = f + if b || isUniverse p then 1 else 0 := by
  obtain ⟨s, r⟩ := l
  cases hl
  obtain ⟨hd, hdf⟩ := dispatch_countdown s p
  dsimp only at hb hf
  rw [← hb, ← hf, ← hd, ← hdf]
  split
  · next hq => simp [Loop.step, mainLoopBody, hq]
  · next hq =>
    simp only [Loop.step, mainLoopBody, hq, if_false, if_true]
    have hg := (affirmationPass_sameGlobals ((countdown (dispatch s p)).instances.map (·.handle))
      (countdown (dispatch s p))).trans (foldl_rel SameGlobals.refl (·.trans ·) reapInstance
        reapInstance_sameGlobals ((countdown (dispatch s p)).instances.map (·.handle)) _)
    have hc : (countdown (dispatch s p)).shouldShutdown = (dispatch s p).shouldShutdown ∧
        (countdown (dispatch s p)).framesSinceKillUniverseCommand =
          (dispatch s p).framesSinceKillUniverseCommand +
            if (dispatch s p).shouldShutdown then 1 else 0 := by
      unfold countdown; split <;> simp [*]
    exact ⟨trivial, hg.2.trans hc.1, hg.4.trans hc.2⟩

section Countdown

variable {s0 : Master} {σ : Nat → Option Packet} {t : Nat}

/-- Before the first `SHUTDOWN_UNIVERSE` the loop runs with the flag clear and no frame
counted. -/
theorem trace_before_universe (hs : s0.shouldShutdown = false)
    (hf : s0.framesSinceKillUniverseCommand = 0) (hbefore : ∀ k < t, isUniverse (σ k) = false) :
    ∀ k ≤ t, (trace s0 σ k).running = true ∧ (trace s0 σ k).master.shouldShutdown = false ∧
      (trace s0 σ k).master.framesSinceKillUniverseCommand = 0
  | 0, _ => ⟨rfl, hs, hf⟩
  | k + 1, hk => by
    obtain ⟨hr, hsd, hfr⟩ := trace_before_universe hs hf hbefore k (by omega)
    simpa [hbefore k (by omega)] using step_countdown hr (σ k) hsd hfr

/-- From the iteration handling it, the loop counts one frame per iteration. -/
theorem trace_counting (hr : (trace s0 σ t).running = true)
    (hs : (trace s0 σ t).master.shouldShutdown = false)
    (hf : (trace s0 σ t).master.framesSinceKillUniverseCommand = 0)
    (ht : isUniverse (σ t) = true) :
    ∀ j < 40000, (trace s0 σ (t + j + 1)).running = true ∧
      (trace s0 σ (t + j + 1)).master.shouldShutdown = true ∧
      (trace s0 σ (t + j + 1)).master.framesSinceKillUniverseCommand = j + 1
  | 0, _ => by simpa [ht] using step_countdown hr (σ t) hs hf
  | j + 1, hj => by
    obtain ⟨hr', hs', hf'⟩ := trace_counting hr hs hf ht j (by omega)
    have h := step_countdown hr' (σ (t + j + 1)) hs' hf'
    rw [Bool.true_or, if_neg (by omega)] at h
    simpa [show t + (j + 1) + 1 = t + j + 1 + 1 by omega] using h

end Countdown

theorem startup_countdown (ip : String) (prestart : Bool) :
    (startup ip prestart).shouldShutdown = false ∧
      (startup ip prestart).framesSinceKillUniverseCommand = 0 := by
  cases prestart <;> exact ⟨rfl, rfl⟩

/-- The loop breaks exactly 40000 iterations after the one that handled the first
`SHUTDOWN_UNIVERSE`, whatever else `Receive` returns; `main` then takes the universe
path. -/
theorem universe_countdown (ip : String) (prestart : Bool) (σ : Nat → Option Packet) (t : Nat)
    (hbefore : ∀ k < t, isUniverse (σ k) = false) (ht : isUniverse (σ t) = true) :
    (∀ k ≤ t + 40000, (trace (startup ip prestart) σ k).running = true) ∧
      (trace (startup ip prestart) σ (t + 40001)).running = false := by
  obtain ⟨hs, hf⟩ := startup_countdown ip prestart
  have hb := trace_before_universe hs hf hbefore
  obtain ⟨hr, hs', hf'⟩ := hb t le_rfl
  have hc := trace_counting hr hs' hf' ht
  refine ⟨fun k hk => ?_, ?_⟩
  · by_cases hkt : k ≤ t
    · exact (hb k hkt).1
    · obtain ⟨j, rfl⟩ : ∃ j, k = t + j + 1 := ⟨k - t - 1, by omega⟩
      exact (hc j (by omega)).1
  · obtain ⟨hr'', hs'', hf''⟩ := hc 39999 (by omega)
    generalize hn : t + 39999 + 1 = n at hr'' hs'' hf''
    have h := step_countdown hr'' (σ n) hs'' hf''
    rw [Bool.true_or, if_pos ⟨rfl, by omega⟩] at h
    rw [show t + 40001 = n + 1 by omega, trace_succ]
    exact h

/-- A `SHUTDOWN_UNIVERSE` as the first packet, and nothing after it. -/
theorem universe_countdown_first_packet :
    let σ : Nat → Option Packet := fun k =>
      if k = 0 then some ⟨⟨1, 1⟩, none, some .shutdownUniverse⟩ else none
    (∀ k ≤ 0 + 40000, (trace (startup "" false) σ k).running = true) ∧
      (trace (startup "" false) σ (0 + 40001)).running = false :=
  universe_countdown "" false _ 0 (fun _ h => absurd h (Nat.not_lt_zero _)) rfl

end MasterServer.Termination
