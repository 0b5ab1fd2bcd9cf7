import MasterServer.Affirmation
import MasterServer.ShuttingDown

/-!
# Wedging, tick by tick

Along a run of `main`'s loop, the counter of an instance is the number of
consecutive ticks whose timeout pass found affirmations pending at it. So the
wedge fires exactly when a stretch of such ticks reaches 1000, whatever requests
filled the set along the way, and never twice in one stretch.
-/

namespace MasterServer.Timeout

open Master Relation Affirmation

theorem dispatch_evolves (s : Master) (p : Option Packet) : Evolves Change s (dispatch s p) := by
  cases p with
  | none => exact .refl s
  | some p => exact handlePacket_evolves s p

theorem countdown_evolves (s : Master) : Evolves Change s (countdown s) := by
  unfold countdown
  split <;> exact .of_eq rfl rfl

theorem dispatch_reachable {s : Master} (hs : Reachable s) (p : Option Packet) :
    Reachable (dispatch s p) := by
  cases p with
  | none => exact hs
  | some p => exact .step hs (.dispatch s p)

/-- The reaping pass is a run of `Step`s that only removes instances. -/
theorem reapPass_spec : ∀ (hs : List Nat) (s : Master),
    ReflTransGen Step s (reapPass s hs) ∧ (reapPass s hs).nextHandle = s.nextHandle ∧
      ∀ i ∈ (reapPass s hs).instances, i ∈ s.instances
  | [], s => ⟨.refl, rfl, fun _ h => h⟩
  | h :: hs, s => by
    have hr : (reapInstance s h).nextHandle = s.nextHandle ∧
        ∀ i ∈ (reapInstance s h).instances, i ∈ s.instances := by
      unfold reapInstance
      repeat' split
      all_goals exact ⟨rfl, fun i hi => by simp_all⟩
    obtain ⟨hsteps, hn, hsub⟩ := reapPass_spec hs (reapInstance s h)
    exact ⟨.head (.reap s h) hsteps, hn.trans hr.1, fun i hi => hr.2 i (hsub i hi)⟩

/-- A running tick either breaks, recording nothing, or runs both passes over the
snapshot taken after dispatch and countdown. -/
theorem step_running {l : Loop} (hl : l.running = true) (p : Option Packet) :
    (let C := countdown (dispatch l.master p)
     let hs := C.instances.map Instance.handle
     l.step p = (⟨reapPass (affirmationPass C hs).1 hs, true⟩, (affirmationPass C hs).2)) ∨
      (l.step p).1 = ⟨dispatch l.master p, false⟩ ∧ (l.step p).2 = [] := by
  obtain ⟨s, r⟩ := l
  cases hl
  by_cases hq : (dispatch s p).shouldShutdown = true ∧ 40000 ≤ (dispatch s p).framesSinceKillUniverseCommand
  · exact .inr (by simp [Loop.step, mainLoopBody, hq])
  · exact .inl (by simp only [Loop.step, mainLoopBody, hq, if_false, if_true])

theorem step_stopped {l : Loop} (hl : l.running = false) (p : Option Packet) :
    l.step p = (l, []) := by
  simp [Loop.step, hl]

/-- What a running tick did, seen from each handle: `S` is the state before the tick,
`R` the state after it and `recs` the records of its pass. The pass records a handle
at most once, at the counter it had before the tick, leaves the next counter there,
and 0 at every handle it did not record. -/
structure TickFacts (S R : Master) (recs : List PassRecord) : Prop where
  reachable : Reachable R
  nextHandle_le : S.nextHandle ≤ R.nextHandle
  nodup : (recs.map PassRecord.handle).Nodup
  visited : ∀ r ∈ recs, r.handle < R.nextHandle ∧ ∃ i,
    i.handle = r.handle ∧ CounterInv i ∧ i.affirmationTimeout = counterOf S r.handle ∧
    ((∃ j ∈ S.instances, j.handle = r.handle) ∨ S.nextHandle ≤ r.handle) ∧
    r.pending = i.pendingAffirmations ∧ r.wedged = decide (i.nextAffirmationTimeout = 1000) ∧
    ∀ j ∈ R.instances, j.handle = r.handle → j.affirmationTimeout = i.nextAffirmationTimeout
  unvisited : ∀ j ∈ R.instances, (∀ r ∈ recs, r.handle ≠ j.handle) → j.affirmationTimeout = 0

theorem tick_spec {S : Master} (hS : Reachable S) (p : Option Packet) :
    let C := countdown (dispatch S p)
    let hs := C.instances.map Instance.handle
    TickFacts S (reapPass (affirmationPass C hs).1 hs) (affirmationPass C hs).2 := by
  intro C hs
  have hwS := hS.wellFormed
  have hSC : Evolves Change S C := (dispatch_evolves S p).trans (countdown_evolves _)
  obtain ⟨hwC, hleC, hdC⟩ := hSC hwS
  have hC : Reachable C := .step (dispatch_reachable hS p) (.countdown _)
  have hn : hs.Nodup := hwC.1
  obtain ⟨hsteps, hmap, hvis, hrest⟩ := affirmationPass_spec hs C hC hn fun h hh => by
    simpa [hs] using hh
  have hP := hC.steps hsteps
  obtain ⟨-, hleP, -⟩ := steps_evolves hsteps hwC
  obtain ⟨hreap, hnR, hsub⟩ := reapPass_spec hs (affirmationPass C hs).1
  have hwP := hP.wellFormed
  refine ⟨hP.steps hreap, by omega, by rw [hmap]; exact hn, fun r hr => ?_, fun j hj hnone => ?_⟩
  · obtain ⟨i, ⟨hih, hic, hcnt, hpend, hwedge⟩, hnext⟩ := hvis r hr
    have hmem : r.handle ∈ hs := hmap ▸ List.mem_map_of_mem _ hr
    obtain ⟨c, hc, hch⟩ := List.mem_map.mp hmem
    obtain ⟨j, hjo, hjr⟩ := hdC c hc
    have hjh := (PassChange.chain_handle (hjr.mono fun _ _ => PassChange.change)).symm
    refine ⟨?_, i, hih, hic, ?_, ?_, hpend, hwedge, fun k hk hkh => ?_⟩
    · have := hwC.2 c hc
      omega
    · rw [hcnt, ← hch, counterOf_of_mem hwC hc, counter_eq_of_evolves hSC hwS hc]
    · rcases hjo with hj | ⟨-, hj⟩
      · exact .inl ⟨j, hj, hjh.trans hch⟩
      · exact .inr (hch ▸ hjh ▸ hj)
    · rw [← hnext, ← hkh, counterOf_of_mem hwP (hsub k hk)]
  · have hj' := hsub j hj
    have hout : j.handle ∉ hs := fun h => by
      obtain ⟨r, hr, hrh⟩ := List.mem_map.mp (hmap ▸ h : j.handle ∈ _)
      exact hnone r hr hrh
    rw [← counterOf_of_mem hwP hj', hrest _ hout]
    exact counterOf_of_not_mem fun c hc hch => hout (hch ▸ List.mem_map_of_mem _ hc)

theorem Loop.tickFacts {l : Loop} (hS : Reachable l.master) (p : Option Packet)
    (hl : (l.step p).1.running = true) : TickFacts l.master (l.step p).1.master (l.step p).2 := by
  cases hl₀ : l.running
  · rw [step_stopped hl₀] at hl
    simp [hl₀] at hl
  · rcases step_running hl₀ p with hstep | ⟨hstep, -⟩ <;> rw [hstep] at hl ⊢
    · exact tick_spec hS p
    · simp at hl

/-- The timeout pass of tick `n` found `h` with affirmations pending. -/
def Busy (s0 : Master) (σ : Nat → Option Packet) (h n : Nat) : Prop :=
  ∃ r ∈ passes s0 σ n, r.handle = h ∧ r.pending ≠ []

instance (s0 : Master) (σ : Nat → Option Packet) (h n : Nat) : Decidable (Busy s0 σ h n) :=
  inferInstanceAs (Decidable (∃ r ∈ passes s0 σ n, r.handle = h ∧ r.pending ≠ []))

/-- The number of consecutive ticks just before `n` whose pass found `h` busy. -/
def streak (s0 : Master) (σ : Nat → Option Packet) (h : Nat) : Nat → Nat
  | 0 => 0
  | n + 1 => if Busy s0 σ h n then streak s0 σ h n + 1 else 0

section Runs

variable {s0 : Master} {σ : Nat → Option Packet} {h : Nat}

theorem busy_of_streak : ∀ {n m : Nat}, streak s0 σ h n = m →
    m ≤ n ∧ ∀ k < m, Busy s0 σ h (n - 1 - k)
  | 0, m, hm => ⟨by simp [streak] at hm; omega, fun k hk => by simp [streak] at hm; omega⟩
  | n + 1, m, hm => by
    simp only [streak] at hm
    split at hm
    · obtain ⟨hle, hb⟩ := busy_of_streak (n := n) rfl
      refine ⟨by omega, fun k hk => ?_⟩
      rcases k with _ | k
      · simpa using ‹Busy s0 σ h n›
      · simpa [Nat.sub_sub, Nat.add_comm 1 k] using hb k (by omega)
    · exact ⟨by omega, fun k hk => by omega⟩

theorem streak_add {t₀ : Nat} : ∀ {m : Nat}, (∀ k < m, Busy s0 σ h (t₀ + k)) →
    streak s0 σ h (t₀ + m) = streak s0 σ h t₀ + m
  | 0, _ => rfl
  | m + 1, hb => by
    rw [← Nat.add_assoc, streak, if_pos (hb m (by omega)),
      streak_add fun k hk => hb k (by omega), Nat.add_assoc]

theorem trace_reachable (hs0 : Reachable s0) : ∀ n, Reachable (trace s0 σ n).master
  | 0 => hs0
  | n + 1 => by
    rw [trace_succ]
    cases hl : (trace s0 σ n).running with
    | false => rw [step_stopped hl]; exact trace_reachable hs0 n
    | true =>
      rcases step_running hl (σ n) with h | ⟨h, -⟩ <;> rw [h]
      · exact (tick_spec (trace_reachable hs0 n) (σ n)).1
      · exact dispatch_reachable (trace_reachable hs0 n) (σ n)

/-- While the loop runs, every counter is its instance's busy streak, and a handle not
handed out yet has none. -/
def StreakInv (s0 : Master) (σ : Nat → Option Packet) (n : Nat) : Prop :=
  (∀ i ∈ (trace s0 σ n).master.instances, i.affirmationTimeout = streak s0 σ i.handle n) ∧
    ∀ k, (trace s0 σ n).master.nextHandle ≤ k → streak s0 σ k n = 0

theorem counterOf_eq_streak {n k : Nat} (hw : WellFormed (trace s0 σ n).master)
    (hinv : StreakInv s0 σ n)
    (hk : (∃ j ∈ (trace s0 σ n).master.instances, j.handle = k) ∨
      (trace s0 σ n).master.nextHandle ≤ k) :
    counterOf (trace s0 σ n).master k = streak s0 σ k n := by
  rcases hk with ⟨j, hj, rfl⟩ | hk
  · rw [counterOf_of_mem hw hj, hinv.1 j hj]
  · rw [hinv.2 k hk, counterOf_of_not_mem fun j hj he => absurd (hw.2 j hj) (by omega)]

/-- The counter the pass leaves at an instance it found busy. -/
theorem nextAffirmationTimeout_eq {i : Instance} (hi : CounterInv i) :
    i.nextAffirmationTimeout = if i.pendingAffirmations = [] then 0 else i.affirmationTimeout + 1 := by
  unfold Instance.nextAffirmationTimeout
  split
  · rfl
  · have : i.affirmationTimeout ≠ 1000 := fun h1 => ‹¬_› (hi.2 h1).2.2
    have := hi.1
    exact Nat.mod_eq_of_lt (by omega)

theorem running_of_succ {n : Nat} (hl : (trace s0 σ (n + 1)).running = true) :
    (trace s0 σ n).running = true := by
  cases h : (trace s0 σ n).running
  · rw [trace_succ, step_stopped h] at hl
    simp [h] at hl
  · rfl

theorem running_of_mem_passes {n : Nat} {r : PassRecord} (hr : r ∈ passes s0 σ n) :
    (trace s0 σ (n + 1)).running = true := by
  unfold passes at hr
  rw [trace_succ]
  cases hl : (trace s0 σ n).running
  · rw [step_stopped hl] at hr
    simp at hr
  · rcases step_running hl (σ n) with h | ⟨-, h⟩
    · rw [h]
    · rw [h] at hr
      simp at hr

theorem streakInv_succ {n : Nat} (hS : Reachable (trace s0 σ n).master) (hinv : StreakInv s0 σ n)
    (hl : (trace s0 σ (n + 1)).running = true) : StreakInv s0 σ (n + 1) := by
  have hf : TickFacts (trace s0 σ n).master (trace s0 σ (n + 1)).master (passes s0 σ n) :=
    Loop.tickFacts hS (σ n) hl
  refine ⟨fun j hj => ?_, fun k hk => ?_⟩
  · by_cases hv : ∃ r ∈ passes s0 σ n, r.handle = j.handle
    · obtain ⟨r, hr, hrj⟩ := hv
      obtain ⟨-, i, -, hic, hcnt, hreg, hpend, -, hnext⟩ := hf.visited r hr
      have hbusy : Busy s0 σ j.handle n ↔ r.pending ≠ [] :=
        ⟨fun ⟨r', hr', h1, h2⟩ => List.inj_on_of_nodup_map hf.nodup hr' hr (h1.trans hrj.symm) ▸ h2,
          fun h => ⟨r, hr, hrj, h⟩⟩
      rw [hnext j hj hrj.symm, streak, nextAffirmationTimeout_eq hic, hcnt,
        counterOf_eq_streak hS.wellFormed hinv hreg, hrj, ← hpend]
      by_cases hp : r.pending = [] <;> simp [hp, hbusy]
    · push_neg at hv
      rw [hf.unvisited j hj hv, streak, if_neg]
      rintro ⟨r, hr, hrh, -⟩
      exact hv r hr hrh
  · rw [streak, if_neg]
    rintro ⟨r, hr, rfl, -⟩
    have := (hf.visited r hr).1
    omega

end Runs

theorem streakInv_startup (ip : String) (prestart : Bool) (σ : Nat → Option Packet) :
    ∀ n, (trace (startup ip prestart) σ n).running = true → StreakInv (startup ip prestart) σ n
  | 0, _ => by
    refine ⟨fun i hi => ?_, fun _ _ => rfl⟩
    show i.affirmationTimeout = 0
    cases prestart <;> simp [startup_instances] at hi
    rcases hi with rfl | rfl <;> rfl
  | n + 1, hl => streakInv_succ (trace_reachable (.startup ip prestart) n)
      (streakInv_startup ip prestart σ n (running_of_succ hl)) hl

section Records

variable {ip : String} {prestart : Bool} {σ : Nat → Option Packet} {n : Nat} {r : PassRecord}

/-- A record of a run from startup: the visit found the counter at the busy streak. -/
theorem record_spec (hr : r ∈ passes (startup ip prestart) σ n) :
    ∃ i, CounterInv i ∧ i.affirmationTimeout = streak (startup ip prestart) σ r.handle n ∧
      r.pending = i.pendingAffirmations ∧ r.wedged = decide (i.nextAffirmationTimeout = 1000) := by
  have hl := running_of_mem_passes hr
  have hS : Reachable (trace (startup ip prestart) σ n).master :=
    trace_reachable (.startup ip prestart) n
  have hf : TickFacts _ _ (passes (startup ip prestart) σ n) := Loop.tickFacts hS (σ n) hl
  obtain ⟨-, i, -, hic, hcnt, hreg, hpend, hwedge, -⟩ := hf.visited r hr
  exact ⟨i, hic, hcnt.trans (counterOf_eq_streak hS.wellFormed
    (streakInv_startup ip prestart σ n (running_of_succ hl)) hreg), hpend, hwedge⟩

/-- The wedge fires exactly at a busy visit that ends a streak of 999 busy ticks. -/
theorem wedged_iff (hr : r ∈ passes (startup ip prestart) σ n) :
    r.wedged = true ↔ r.pending ≠ [] ∧ streak (startup ip prestart) σ r.handle n = 999 := by
  obtain ⟨i, hic, hcnt, hpend, hwedge⟩ := record_spec hr
  rw [hwedge, decide_eq_true_iff, nextAffirmationTimeout_eq hic, hpend, ← hcnt]
  by_cases hp : i.pendingAffirmations = [] <;> simp [hp]

/-- A busy visit finds the streak below 1000. -/
theorem streak_lt_of_busy (hr : r ∈ passes (startup ip prestart) σ n) (hp : r.pending ≠ []) :
    streak (startup ip prestart) σ r.handle n < 1000 := by
  obtain ⟨i, hic, hcnt, hpend, -⟩ := record_spec hr
  rw [← hcnt]
  exact lt_of_le_of_ne hic.1 fun h => hp (hpend.trans (hic.2 h).2.2)

end Records

/-- What a visit records: the handle, the pending affirmations it read and the wedge. -/
theorem checkAffirmation_snd (s : Master) (h : Nat) :
    (checkAffirmation s h).2 =
      (s.get? h).map fun i => ⟨h, i.pendingAffirmations, decide (i.nextAffirmationTimeout = 1000)⟩ := by
  cases hg : s.get? h with
  | none => simp only [checkAffirmation, hg, Option.map_none']
  | some i =>
    simp only [checkAffirmation, hg, Option.map_some']
    split <;> simp_all

theorem affirmationPass_steps : ∀ (hs : List Nat) (s : Master),
    ReflTransGen Step s (affirmationPass s hs).1
  | [], _ => .refl
  | h :: hs, s => .head (.check s h) (affirmationPass_steps hs _)

/-- Each record of a pass is what `checkAffirmation` read at a state the pass goes through. -/
theorem affirmationPass_visit : ∀ (hs : List Nat) (s : Master) {r : PassRecord},
    r ∈ (affirmationPass s hs).2 → ∃ s₁, ReflTransGen Step s s₁ ∧
      (checkAffirmation s₁ r.handle).2 = some r ∧
      ReflTransGen Step (checkAffirmation s₁ r.handle).1 (affirmationPass s hs).1
  | [], _, _, hr => nomatch hr
  | h :: hs, s, r, hr => by
    rw [affirmationPass_cons] at hr ⊢
    rcases List.mem_append.mp hr with hr | hr
    · have hc : (checkAffirmation s h).2 = some r := Option.mem_toList.mp hr
      have hh : r.handle = h := by
        rw [checkAffirmation_snd] at hc
        obtain ⟨_, -, rfl⟩ := Option.map_eq_some'.mp hc
        rfl
      exact ⟨s, .refl, hh ▸ hc, hh ▸ affirmationPass_steps hs _⟩
    · obtain ⟨s₁, h₁, h₂, h₃⟩ := affirmationPass_visit hs _ hr
      exact ⟨s₁, .head (.check s h) h₁, h₂, h₃⟩

theorem dispatch_steps (s : Master) (p : Option Packet) : ReflTransGen Step s (dispatch s p) := by
  cases p with
  | none => exact .refl
  | some p => exact .single (.dispatch s p)

section Readings

variable {s0 : Master} {σ : Nat → Option Packet} {n : Nat} {r : PassRecord}

/-- **Records are readings of the run.** A record of tick `n` is what the timeout pass read at
a state the run goes through in that tick: the pending affirmations of the instance at the
record's handle there, and the wedge decided from that instance's counter. -/
theorem record_of_run (hr : r ∈ passes s0 σ n) :
    ∃ s₁ i, ReflTransGen Step (trace s0 σ n).master s₁ ∧ s₁.get? r.handle = some i ∧
      r.pending = i.pendingAffirmations ∧ r.wedged = decide (i.nextAffirmationTimeout = 1000) ∧
      ReflTransGen Step (checkAffirmation s₁ r.handle).1 (trace s0 σ (n + 1)).master := by
  unfold passes at hr
  rw [trace_succ]
  cases hl : (trace s0 σ n).running
  · rw [step_stopped hl] at hr
    simp at hr
  · rcases step_running hl (σ n) with hstep | ⟨-, hnil⟩
    · rw [hstep] at hr ⊢
      obtain ⟨s₁, h₁, hc, h₂⟩ := affirmationPass_visit _ _ hr
      rw [checkAffirmation_snd] at hc
      obtain ⟨i, hg, he⟩ := Option.map_eq_some'.mp hc
      refine ⟨s₁, i, ?_, hg, (congrArg PassRecord.pending he).symm,
        (congrArg PassRecord.wedged he).symm, h₂.trans (reapPass_spec _ _).1⟩
      exact (dispatch_steps _ _).trans (.head (.countdown _) h₁)
    · rw [hnil] at hr
      cases hr

/-- The wedge of a visit sends `SHUTDOWN` to the instance it read and marks it: every
instance at its handle afterwards is shutting down. -/
theorem checkAffirmation_wedge {s : Master} (hw : WellFormed s) {h : Nat} {i : Instance}
    (hg : s.get? h = some i) (hn : i.nextAffirmationTimeout = 1000) :
    i.shutdown ∈ (checkAffirmation s h).1.effects ∧
      ∀ j ∈ (checkAffirmation s h).1.instances, j.handle = h → j.shuttingDown = true := by
  obtain ⟨hi, rfl⟩ := get?_mem hg
  unfold checkAffirmation redirectPendingRequests
  rw [hg]
  dsimp only
  rw [if_pos hn]
  refine ⟨(redirect_acts i _ _ fun _ h => h).appends.mem (by simp), ?_⟩
  refine ShuttingDown.shuttingDown_descends
    ((redirect_acts i _ _ fun _ h => h).evolves.mono (fun _ _ => PassChange.change) ?_).2
    (hw.2 i hi) fun k hk hkh => ?_
  · refine Affirmation.wellFormed_modify (Affirmation.wellFormed_modify
      (Affirmation.wellFormed_modify hw _ ?_) _ ?_) _ ?_ <;> exact fun _ => rfl
  · obtain ⟨j, hj, hjh, rfl⟩ := mem_modify_of_handle hk hkh
    obtain ⟨_, -, -, rfl⟩ := mem_modify_of_handle hj hjh
    rfl

/-- **A wedged record is a wedge of the state.** When the pass of a tick of a run from a
reachable state records a wedge, the instance it read has been sent `SHUTDOWN`, and after the
tick every instance at the record's handle is shutting down. -/
theorem wedged_record_shutdown (hs0 : Reachable s0) (hr : r ∈ passes s0 σ n)
    (hw : r.wedged = true) :
    ∃ i : Instance, i.handle = r.handle ∧ i.pendingAffirmations = r.pending ∧
      i.shutdown ∈ (trace s0 σ (n + 1)).master.effects ∧
      ∀ j ∈ (trace s0 σ (n + 1)).master.instances, j.handle = r.handle → j.shuttingDown = true := by
  obtain ⟨s₁, i, h₁, hg, hp, hwd, h₂⟩ := record_of_run hr
  have hs₁ : Reachable s₁ := (trace_reachable hs0 n).steps h₁
  have hn : i.nextAffirmationTimeout = 1000 := of_decide_eq_true (hwd ▸ hw)
  obtain ⟨hi, hih⟩ := get?_mem hg
  obtain ⟨he, hsd⟩ := checkAffirmation_wedge hs₁.wellFormed hg hn
  have hs₂ : Reachable (checkAffirmation s₁ r.handle).1 := .step hs₁ (.check _ _)
  have hlt : r.handle < (checkAffirmation s₁ r.handle).1.nextHandle :=
    calc r.handle = i.handle := hih.symm
      _ < s₁.nextHandle := hs₁.wellFormed.2 i hi
      _ ≤ _ := ((Step.check s₁ r.handle).evolves hs₁.wellFormed).2.1
  obtain ⟨-, hd⟩ := steps_evolves h₂ hs₂.wellFormed
  exact ⟨i, hih, hp.symm, (steps_appends h₂).mem he,
    ShuttingDown.shuttingDown_descends hd hlt hsd⟩

end Readings

/-- The run's requests, from the client at `⟨2, 2⟩`. -/
def churnRequest (n : Nat) : TransferRequest := ⟨n.toUInt64, false, ⟨2, 2⟩⟩

/-- `REQUEST_ZONE_TRANSFER(n)` for map 1000 from the client. -/
def churnAsk (n : Nat) : Option Packet :=
  some ⟨⟨2, 2⟩, none, some (.requestZoneTransfer n.toUInt64 0 1000 0)⟩

/-- `AFFIRM_TRANSFER_RESPONSE(n)` from the world at `⟨1, 1⟩`. -/
def churnAffirm (n : Nat) : Option Packet :=
  some ⟨⟨1, 1⟩, none, some (.affirmTransferResponse n.toUInt64)⟩

/-- A healthy instance wedged: after the world of map 1000 rebinds its prestarted
instance, a client asks for map 1000 every other tick and the world affirms each request two
ticks after it arrives. The set of pending affirmations is never empty again, no request
stays in it for more than three passes, and the instance is wedged at tick 1000. -/
def churn : Nat → Option Packet
  | 0 => some ⟨⟨1, 1⟩, none, some (.serverInfo 2 1000 2 .world "10.0.0.1")⟩
  | 1 => churnAsk 1
  | n + 2 => if n % 2 = 0 then churnAsk (n / 2 + 2) else churnAffirm (n / 2 + 1)

theorem churn_even (j : Nat) : churn (2 * j + 2) = churnAsk (j + 2) := by
  show (if 2 * j % 2 = 0 then churnAsk (2 * j / 2 + 2) else _) = _
  rw [if_pos (Nat.mul_mod_right 2 j), Nat.mul_div_cancel_left j (by decide)]

theorem churn_odd (j : Nat) : churn (2 * j + 1 + 2) = churnAffirm (j + 1) := by
  show (if (2 * j + 1) % 2 = 0 then _ else churnAffirm ((2 * j + 1) / 2 + 1)) = _
  rw [if_neg (by omega), show (2 * j + 1) / 2 = j by omega]

/-- The state of the run once the world is rebound, with its queue and counter. -/
def churnState (pending : List TransferRequest) (count : Nat) (es : List Effect) : Master where
  instances := [{ newInstance 0 "10.0.0.1" 1 0 1 0 12 12 with ready := true },
    { newInstance 1 "10.0.0.1" 2 1000 2 0 12 12 with
      ready := true, sysAddr := ⟨1, 1⟩, pendingAffirmations := pending, affirmationTimeout := count }]
  nextHandle := 2
  externalIP := "10.0.0.1"
  activeSessions := .empty
  shouldShutdown := false
  chatServerMasterPeerSysAddr := .unassigned
  framesSinceKillUniverseCommand := 0
  currentPersistentID := 0
  effects := es

theorem churn_rebind : ∃ es, trace (startup "10.0.0.1" true) churn 1 = ⟨churnState [] 0 es, true⟩ :=
  ⟨_, rfl⟩

theorem churn_ask_tick (ps : List TransferRequest) (c n : Nat) (es : List Effect)
    (hc : c + 1 < 1000) :
    ∃ es', Loop.step ⟨churnState ps c es, true⟩ (churnAsk n) =
      (⟨churnState (ps ++ [churnRequest n]) (c + 1) es', true⟩,
        [⟨0, [], false⟩, ⟨1, ps ++ [churnRequest n], false⟩]) := by
  have h1 : c < 1000 := by omega
  have h2 : c + 1 ≠ 1000 := by omega
  simp [Loop.step, mainLoopBody, dispatch, handlePacket, handleNotification, handleMasterMessage,
    requestZoneTransfer, getInstance, churnState, Instance.serves, requestAffirmation, countdown,
    affirmationPass, checkAffirmation, Master.get?, Master.modify, Master.emit,
    Instance.nextAffirmationTimeout_of_idle, Instance.nextAffirmationTimeout_of_busy, h1, h2,
    reapPass, reapInstance, newInstance, churnRequest, churnAsk, UInt32.size]

theorem churn_affirm_tick (n : Nat) (ps : List TransferRequest) (c : Nat) (es : List Effect)
    (hps : ps ≠ []) (hc : c + 1 < 1000) :
    ∃ es', Loop.step ⟨churnState (churnRequest n :: ps) c es, true⟩ (churnAffirm n) =
      (⟨churnState ps (c + 1) es', true⟩, [⟨0, [], false⟩, ⟨1, ps, false⟩]) := by
  have h1 : c < 1000 := by omega
  have h2 : c + 1 ≠ 1000 := by omega
  have h3 : (SysAddr.unassigned == (⟨1, 1⟩ : SysAddr)) = false := by decide
  simp [Loop.step, mainLoopBody, dispatch, handlePacket, handleNotification, handleMasterMessage,
    getInstanceBySysAddr, h3, affirmTransfer, churnState, countdown, affirmationPass,
    checkAffirmation, Master.get?, Master.modify, Master.emit,
    Instance.nextAffirmationTimeout_of_idle, Instance.nextAffirmationTimeout_of_busy, h1, h2,
    reapPass, reapInstance, newInstance, hps, churnRequest, churnAffirm]

theorem churn_wedge_tick (ps : List TransferRequest) (c n : Nat) (es : List Effect)
    (hc : c + 1 = 1000) :
    (Loop.step ⟨churnState ps c es, true⟩ (churnAsk n)).2 =
      [⟨0, [], false⟩, ⟨1, ps ++ [churnRequest n], true⟩] := by
  have h1 : c < 1000 := by omega
  simp [h1, hc, Instance.nextAffirmationTimeout_of_idle, Instance.nextAffirmationTimeout_of_busy,
    UInt32.size, Loop.step, mainLoopBody, dispatch, handlePacket, handleNotification, handleMasterMessage,
    requestZoneTransfer, getInstance, churnState, Instance.serves, requestAffirmation, countdown,
    affirmationPass, checkAffirmation, Master.get?, Master.modify, Master.emit,
    reapPass, reapInstance, newInstance, churnRequest, churnAsk]

/-- Every two ticks the oldest request is affirmed and a new one arrives. -/
theorem churn_run : ∀ j ≤ 499, ∃ es,
    trace (startup "10.0.0.1" true) churn (2 * j + 2) =
      ⟨churnState [churnRequest (j + 1)] (2 * j + 1) es, true⟩
  | 0, _ => by
    obtain ⟨es, h⟩ := churn_rebind
    obtain ⟨es', h'⟩ := churn_ask_tick [] 0 1 es (by omega)
    exact ⟨es', by rw [trace_succ, h]; exact congrArg Prod.fst h'⟩
  | j + 1, hj => by
    obtain ⟨es, h⟩ := churn_run j (by omega)
    obtain ⟨es₁, h₁⟩ := churn_ask_tick [churnRequest (j + 1)] (2 * j + 1) (j + 2) es (by omega)
    obtain ⟨es₂, h₂⟩ := churn_affirm_tick (j + 1) [churnRequest (j + 2)] (2 * j + 2) es₁
      (List.cons_ne_nil _ _) (by omega)
    simp only [List.singleton_append] at h₁
    refine ⟨es₂, ?_⟩
    rw [show 2 * (j + 1) + 2 = 2 * j + 2 + 1 + 1 by omega, trace_succ, trace_succ, h, churn_even,
      h₁, show 2 * j + 2 + 1 = 2 * j + 1 + 2 by omega, churn_odd]
    exact congrArg Prod.fst h₂

theorem churn_passes_one :
    passes (startup "10.0.0.1" true) churn 1 = [⟨0, [], false⟩, ⟨1, [churnRequest 1], false⟩] := by
  obtain ⟨es, h⟩ := churn_rebind
  obtain ⟨es', h'⟩ := churn_ask_tick [] 0 1 es (by omega)
  rw [passes, h]
  exact congrArg Prod.snd h'

theorem churn_passes_wedge : passes (startup "10.0.0.1" true) churn 1000 =
    [⟨0, [], false⟩, ⟨1, [churnRequest 500, churnRequest 501], true⟩] := by
  obtain ⟨es, h⟩ := churn_run 499 (by omega)
  rw [passes, show 1000 = 2 * 499 + 2 from rfl, h, churn_even,
    churn_wedge_tick _ _ _ _ (by omega)]
  rfl

theorem churn_wedge_record :
    ⟨1, [churnRequest 500, churnRequest 501], true⟩ ∈ passes (startup "10.0.0.1" true) churn 1000 := by
  rw [churn_passes_wedge]
  exact List.mem_cons_of_mem _ (List.mem_singleton_self _)

/-- The wedge fires at an instance at tick `t` only after 1000 consecutive ticks, ending at
`t`, whose pass found affirmations pending at it. -/
theorem wedge_after_busy_ticks (ip : String) (prestart : Bool) (σ : Nat → Option Packet)
    (t h : Nat) (p : List TransferRequest) (hw : ⟨h, p, true⟩ ∈ passes (startup ip prestart) σ t) :
    999 ≤ t ∧ ∀ k < 1000, Busy (startup ip prestart) σ h (t - k) := by
  obtain ⟨hp, hs⟩ := (wedged_iff hw).mp rfl
  obtain ⟨hle, hb⟩ := busy_of_streak hs
  refine ⟨hle, fun k hk => ?_⟩
  rcases k with _ | k
  · exact ⟨_, hw, rfl, hp⟩
  · simpa [Nat.sub_sub, Nat.add_comm 1 k] using hb k (by omega)

theorem wedge_after_busy_ticks_churn :
    ⟨1, [churnRequest 500, churnRequest 501], true⟩ ∈ passes (startup "10.0.0.1" true) churn 1000 ∧
      999 ≤ 1000 ∧ ∀ k < 1000, Busy (startup "10.0.0.1" true) churn 1 (1000 - k) :=
  ⟨churn_wedge_record, wedge_after_busy_ticks "10.0.0.1" true churn 1000 1 _ churn_wedge_record⟩

/-- The instance of the run is wedged at tick 1000 though no request stayed through the
passes of the 1000 ticks ending there: the first was affirmed long before. -/
theorem churn_wedges_without_stuck_request :
    ⟨1, [churnRequest 500, churnRequest 501], true⟩ ∈ passes (startup "10.0.0.1" true) churn 1000 ∧
      ¬∃ req : TransferRequest, ∀ k < 1000,
        ∃ r ∈ passes (startup "10.0.0.1" true) churn (1000 - k), r.handle = 1 ∧ req ∈ r.pending := by
  refine ⟨churn_wedge_record, fun ⟨req, hreq⟩ => ?_⟩
  obtain ⟨r, hr, hrh, hr1⟩ := hreq 999 (by omega)
  obtain ⟨r', hr', hrh', hr1000⟩ := hreq 0 (by omega)
  rw [show 1000 - 999 = 1 from rfl, churn_passes_one] at hr
  rw [Nat.sub_zero, churn_passes_wedge] at hr'
  simp only [List.mem_cons, List.mem_singleton, List.not_mem_nil, or_false] at hr hr'
  rcases hr with rfl | rfl
  · exact absurd hrh (by decide)
  rcases hr' with rfl | rfl
  · exact absurd hrh' (by decide)
  have h1 : req = churnRequest 1 := by simpa using hr1
  have hne : churnRequest 1 ∉ [churnRequest 500, churnRequest 501] := by decide
  exact hne (h1 ▸ hr1000)

/-- A request that stays at an instance through the passes of 1000 consecutive ticks is
wedged there; and between two wedges of an instance lies a tick whose pass did not find
it busy. -/
theorem stuck_request_wedged (ip : String) (prestart : Bool) (σ : Nat → Option Packet) (h : Nat) :
    (∀ (t₀ : Nat) (req : TransferRequest),
      (∀ k < 1000, ∃ r ∈ passes (startup ip prestart) σ (t₀ + k), r.handle = h ∧ req ∈ r.pending) →
      ∃ k < 1000, ∃ r ∈ passes (startup ip prestart) σ (t₀ + k),
        r.handle = h ∧ req ∈ r.pending ∧ r.wedged = true) ∧
    ∀ t₁ t₂ p₁ p₂, ⟨h, p₁, true⟩ ∈ passes (startup ip prestart) σ t₁ →
      ⟨h, p₂, true⟩ ∈ passes (startup ip prestart) σ t₂ → t₁ < t₂ →
      ∃ t, t₁ < t ∧ t ≤ t₂ ∧ ¬Busy (startup ip prestart) σ h t := by
  refine ⟨fun t₀ req hstuck => ?_, fun t₁ t₂ p₁ p₂ h₁ _ hlt => ⟨t₁ + 1, by omega, hlt, ?_⟩⟩
  · have hb : ∀ k < 999, Busy (startup ip prestart) σ h (t₀ + k) := fun k hk =>
      let ⟨r, hr, hrh, hreq⟩ := hstuck k (by omega)
      ⟨r, hr, hrh, List.ne_nil_of_mem hreq⟩
    have hadd : streak (startup ip prestart) σ h (t₀ + 999) =
        streak (startup ip prestart) σ h t₀ + 999 := streak_add hb
    obtain ⟨r, hr, rfl, hreq⟩ := hstuck 999 (by omega)
    have hlt := streak_lt_of_busy hr (List.ne_nil_of_mem hreq)
    exact ⟨999, by omega, r, hr, rfl, hreq,
      (wedged_iff hr).mpr ⟨List.ne_nil_of_mem hreq, by omega⟩⟩
  · rintro ⟨r, hr, rfl, hp⟩
    obtain ⟨hp₁, hs₁⟩ := (wedged_iff h₁).mp rfl
    have := streak_lt_of_busy hr hp
    rw [streak, if_pos ⟨_, h₁, rfl, hp₁⟩] at this
    simp only at hs₁
    omega

/-- A world that never affirms: after it rebinds its prestarted instance, a client asks for
map 1000 once and nothing else arrives. -/
def stuck : Nat → Option Packet
  | 0 => churn 0
  | 1 => churnAsk 1
  | _ => none

theorem stuck_idle_tick (ps : List TransferRequest) (c : Nat) (es : List Effect) (hps : ps ≠ [])
    (hc : c + 1 < 1000) :
    ∃ es', Loop.step ⟨churnState ps c es, true⟩ none =
      (⟨churnState ps (c + 1) es', true⟩, [⟨0, [], false⟩, ⟨1, ps, false⟩]) := by
  have h1 : c < 1000 := by omega
  have h2 : c + 1 ≠ 1000 := by omega
  simp [Loop.step, mainLoopBody, dispatch, churnState, countdown, affirmationPass,
    checkAffirmation, Master.get?, Master.modify, Instance.nextAffirmationTimeout_of_idle,
    Instance.nextAffirmationTimeout_of_busy, h1, h2, reapPass, reapInstance, newInstance, hps]

theorem stuck_wedge_tick (ps : List TransferRequest) (c : Nat) (es : List Effect) (hps : ps ≠ [])
    (hc : c + 1 = 1000) :
    (Loop.step ⟨churnState ps c es, true⟩ none).2 = [⟨0, [], false⟩, ⟨1, ps, true⟩] := by
  have h1 : c < 1000 := by omega
  simp [h1, hc, hps, Instance.nextAffirmationTimeout_of_idle, Instance.nextAffirmationTimeout_of_busy,
    UInt32.size, Loop.step, mainLoopBody, dispatch, churnState, countdown, affirmationPass,
    checkAffirmation, Master.get?, Master.modify, Master.emit, reapPass, reapInstance, newInstance]

/-- Tick by tick the request stays pending at the world and its counter counts. -/
theorem stuck_run : ∀ j ≤ 998, ∃ es,
    trace (startup "10.0.0.1" true) stuck (j + 2) =
        ⟨churnState [churnRequest 1] (j + 1) es, true⟩ ∧
      passes (startup "10.0.0.1" true) stuck (j + 1) =
        [⟨0, [], false⟩, ⟨1, [churnRequest 1], false⟩]
  | 0, _ => by
    obtain ⟨es, h⟩ : ∃ es, trace (startup "10.0.0.1" true) stuck 1 = ⟨churnState [] 0 es, true⟩ :=
      ⟨_, rfl⟩
    obtain ⟨es', h'⟩ := churn_ask_tick [] 0 1 es (by omega)
    exact ⟨es', by rw [trace_succ, h]; exact congrArg Prod.fst h',
      by rw [passes, h]; exact congrArg Prod.snd h'⟩
  | j + 1, hj => by
    obtain ⟨es, h, -⟩ := stuck_run j (by omega)
    obtain ⟨es', h'⟩ := stuck_idle_tick [churnRequest 1] (j + 1) es (List.cons_ne_nil _ _) (by omega)
    exact ⟨es', by rw [trace_succ, h]; exact congrArg Prod.fst h',
      by rw [passes, h]; exact congrArg Prod.snd h'⟩

theorem stuck_passes_wedge : passes (startup "10.0.0.1" true) stuck 1000 =
    [⟨0, [], false⟩, ⟨1, [churnRequest 1], true⟩] := by
  obtain ⟨es, h, -⟩ := stuck_run 998 (by omega)
  rw [passes, show 1000 = 998 + 2 from rfl, h]
  exact stuck_wedge_tick _ _ _ (List.cons_ne_nil _ _) rfl

theorem stuck_holds_request : ∀ k < 1000, ∃ r ∈ passes (startup "10.0.0.1" true) stuck (1 + k),
    r.handle = 1 ∧ churnRequest 1 ∈ r.pending := by
  intro k hk
  have hrec : ∀ w : Bool, ∃ r ∈ ([⟨0, [], false⟩, ⟨1, [churnRequest 1], w⟩] : List PassRecord),
      r.handle = 1 ∧ churnRequest 1 ∈ r.pending :=
    fun _ => ⟨_, List.mem_cons_of_mem _ (List.mem_singleton_self _), rfl, List.mem_singleton_self _⟩
  rcases Nat.lt_or_ge k 999 with hk' | hk'
  · obtain ⟨es, -, hp⟩ := stuck_run k (by omega)
    rw [Nat.add_comm, hp]
    exact hrec false
  · obtain rfl : k = 999 := by omega
    rw [show 1 + 999 = 1000 from rfl, stuck_passes_wedge]
    exact hrec true

/-- The request of a world that never affirms stays in the passes of ticks 1 to 1000, and
the instance is wedged within them. -/
theorem stuck_request_wedged_run :
    (∀ k < 1000, ∃ r ∈ passes (startup "10.0.0.1" true) stuck (1 + k),
        r.handle = 1 ∧ churnRequest 1 ∈ r.pending) ∧
      ∃ k < 1000, ∃ r ∈ passes (startup "10.0.0.1" true) stuck (1 + k),
        r.handle = 1 ∧ churnRequest 1 ∈ r.pending ∧ r.wedged = true :=
  ⟨stuck_holds_request,
    (stuck_request_wedged "10.0.0.1" true stuck 1).1 1 (churnRequest 1) stuck_holds_request⟩

end MasterServer.Timeout
