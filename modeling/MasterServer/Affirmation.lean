import MasterServer.Evolution

/-!
# The affirmation-timeout pass

Lines 314-337 of `main`: each visit counts a tick with affirmations pending and resets on
one without; at 1000 the instance is shut down and its requests redirected. The counter
never passes 1000, a visit changes other instances only by `Change`, and the pass records
one visit per handle of the snapshot and removes no instance.
-/

namespace MasterServer.Affirmation

open Master Relation

/-- The counter is at most 1000, and at 1000 only on an instance the wedge shut down. -/
def CounterInv (i : Instance) : Prop :=
  i.affirmationTimeout ≤ 1000 ∧ (i.affirmationTimeout = 1000 →
    i.shuttingDown = true ∧ i.pendingRequests = [] ∧ i.pendingAffirmations = [])

theorem counterInv_of_zero {i : Instance} (h : i.affirmationTimeout = 0) : CounterInv i :=
  ⟨by omega, fun h' => absurd (h.symm.trans h') (by decide)⟩

theorem counterInv_pass {i i' : Instance} (h : PassChange i i') (hi : CounterInv i) :
    CounterInv i' := by
  cases h with
  | change h =>
    cases h with
    | enqueue _ _ hs | requestAffirmation _ hs =>
      exact ⟨hi.1, fun h1 => absurd (hi.2 h1).1 (by simp [hs])⟩
    | readyInstance => exact ⟨hi.1, fun h1 => by simp [hi.2 h1]⟩
    | affirmTransfer => exact ⟨hi.1, fun h1 => by simp [hi.2 h1]⟩
    | setShuttingDown => exact ⟨hi.1, fun h1 => ⟨rfl, (hi.2 h1).2⟩⟩
    | setSysAddr | setPlayers | setReady => exact hi
  | count h =>
    refine ⟨?_, fun h' => absurd h' h⟩
    show i.nextAffirmationTimeout ≤ 1000
    unfold Instance.nextAffirmationTimeout
    split
    · exact Nat.zero_le _
    · have : i.affirmationTimeout ≠ 1000 := fun h1 => ‹¬_› (hi.2 h1).2.2
      have := hi.1
      rw [Nat.mod_eq_of_lt (by omega)]
      omega
  | wedge => exact ⟨le_rfl, fun _ => ⟨rfl, rfl, rfl⟩⟩

theorem reachable_counterInv {s : Master} (hs : Reachable s) : ∀ i ∈ s.instances, CounterInv i :=
  (Reachable.forall_instances CounterInv (fun ip prestart i hi => by
      cases prestart <;> simp [startup_instances] at hi
      rcases hi with rfl | rfl <;> exact counterInv_of_zero rfl)
    (fun _ hp => counterInv_of_zero hp.2.2.2.2.1) (fun _ _ => counterInv_pass) hs).2

/-- The counter of the instance a handle points to, 0 when there is none. -/
def counterOf (s : Master) (h : Nat) : Nat := ((s.get? h).map Instance.affirmationTimeout).getD 0

@[simp] theorem counterOf_emit (s : Master) (es : List Effect) (h : Nat) :
    counterOf (s.emit es) h = counterOf s h := rfl

theorem counterOf_of_mem {s : Master} (hw : WellFormed s) {i : Instance} (hi : i ∈ s.instances) :
    counterOf s i.handle = i.affirmationTimeout := by
  simp [counterOf, hw.get?_eq hi]

theorem counterOf_of_not_mem {s : Master} {k : Nat} (hk : ∀ i ∈ s.instances, i.handle ≠ k) :
    counterOf s k = 0 := by
  have : s.get? k = none := List.find?_eq_none.mpr (by simpa using hk)
  simp [counterOf, this]

theorem counterOf_modify {s : Master} {h : Nat} {i : Instance} (hg : s.get? h = some i)
    {f : Instance → Instance} (hf : ∀ j, (f j).handle = j.handle) (k : Nat) :
    counterOf (s.modify h f) k = if k = h then (f i).affirmationTimeout else counterOf s k := by
  unfold counterOf
  rw [get?_modify _ _ _ _ hf]
  split <;> simp [hg]

theorem Change.counter {i i' : Instance} (h : Change i i') :
    i'.affirmationTimeout = i.affirmationTimeout := by
  cases h <;> rfl

/-- Work that changes instances only by `Change` keeps every counter; a new instance
starts at 0. -/
theorem counter_eq_of_evolves {s s' : Master} (he : Evolves Change s s') (hw : WellFormed s)
    {i' : Instance} (hi' : i' ∈ s'.instances) : i'.affirmationTimeout = counterOf s i'.handle := by
  obtain ⟨-, -, hd⟩ := he hw
  obtain ⟨i, ho, hr⟩ := hd i' hi'
  have hc : i'.affirmationTimeout = i.affirmationTimeout :=
    chain_preserves (fun j => j.affirmationTimeout = i.affirmationTimeout)
      (fun _ _ h hj => (Change.counter h).trans hj) hr rfl
  rw [hc, PassChange.chain_handle (hr.mono fun _ _ => PassChange.change)]
  rcases ho with hi | ⟨hp, hn⟩
  · exact (counterOf_of_mem hw hi).symm
  · rw [hp.2.2.2.2.1, counterOf_of_not_mem fun j hj he => absurd (hw.2 j hj) (by omega)]

/-- Every instance of `s` still has its handle registered in `s'`. -/
def Keeps (s s' : Master) : Prop := ∀ i ∈ s.instances, ∃ i' ∈ s'.instances, i'.handle = i.handle

namespace Keeps

variable {s s₁ s₂ s₃ : Master}

theorem refl (s : Master) : Keeps s s := fun i hi => ⟨i, hi, rfl⟩

theorem trans (h₁ : Keeps s₁ s₂) (h₂ : Keeps s₂ s₃) : Keeps s₁ s₃ := fun i hi =>
  let ⟨j, hj, hji⟩ := h₁ i hi
  let ⟨k, hk, hkj⟩ := h₂ j hj
  ⟨k, hk, hkj.trans hji⟩

theorem of_emit (s : Master) (es : List Effect) : Keeps s (s.emit es) := refl s

theorem of_modify (s : Master) (h : Nat) {f : Instance → Instance}
    (hf : ∀ j, (f j).handle = j.handle) : Keeps s (s.modify h f) := fun i hi =>
  ⟨_, List.mem_map_of_mem _ hi, by split <;> simp [hf]⟩

theorem registered (h : Keeps s s') {k : Nat} (hk : ∃ i ∈ s.instances, i.handle = k) :
    ∃ i ∈ s'.instances, i.handle = k :=
  let ⟨i, hi, hik⟩ := hk
  let ⟨i', hi', hh⟩ := h i hi
  ⟨i', hi', hh.trans hik⟩

end Keeps

/-- Every act but a transport event's keeps every handle registered. -/
theorem keeps_of_act {src : Source} {tk dr : Multiset TransferRequest} {s s' : Master}
    (h : Act src tk dr s s') (hs : ∀ addr, src ≠ .event addr) : Keeps s s' := by
  cases h
  case removePeer => exact absurd rfl (hs _)
  case launch | registerWorld => exact fun i hi => ⟨i, List.mem_append_left _ hi, rfl⟩
  case enqueue | requestAffirmation | setSysAddr | changePlayers | affirmTransfer |
      setShuttingDown => exact .of_modify _ _ fun _ => rfl
  case readyInstance => rw [readyInstance_eq]; exact .of_modify _ _ fun _ => rfl
  case setSessionKey _ k u =>
    obtain ⟨_, e, -⟩ := setSessionKey_frame s k.toNat u
    rw [e]; exact .refl s
  all_goals exact .refl _

/-- A visit of the timeout pass: a mutation of the visited instance that sets its counter,
then work that changes instances only by `Change`; the visit records what it found. -/
theorem checkAffirmation_visit {s : Master} {h : Nat} {i : Instance} (hg : s.get? h = some i) :
    ∃ f es, (∀ j, (f j).handle = j.handle) ∧ (f i).affirmationTimeout = i.nextAffirmationTimeout ∧
      Evolves Change ((s.modify h f).emit es) (checkAffirmation s h).1 ∧
      Keeps ((s.modify h f).emit es) (checkAffirmation s h).1 ∧
      (checkAffirmation s h).2 =
        some ⟨h, i.pendingAffirmations, decide (i.nextAffirmationTimeout = 1000)⟩ := by
  obtain ⟨-, rfl⟩ := get?_mem hg
  unfold checkAffirmation
  rw [hg]
  dsimp only
  split
  · rename_i hw
    unfold redirectPendingRequests
    rw [modify_emit, modify_modify, modify_emit, modify_modify]
    · refine ⟨_, _, ?_, ?_, (redirect_acts i _ _ fun _ h => h).evolves,
        (redirect_acts i _ _ fun _ h => h).lift Keeps.refl (fun h₁ h₂ => h₁.trans h₂)
          fun h => keeps_of_act h (by intro _ h; cases h), by simp [hw]⟩
      exacts [fun _ => rfl, rfl]
    all_goals exact fun _ => rfl
  · refine ⟨_, [], ?_, ?_, by rw [emit_nil]; exact .refl _, by rw [emit_nil]; exact .refl _, by simp [*]⟩
    exacts [fun _ => rfl, rfl]

theorem wellFormed_modify {s : Master} (hw : WellFormed s) (h : Nat) {f : Instance → Instance}
    (hf : ∀ j, (f j).handle = j.handle) : WellFormed (s.modify h f) :=
  ((evolves_modify s h f hf fun _ _ _ _ => trivial : Evolves (fun _ _ => True) s _) hw).1

theorem checkAffirmation_keeps {s : Master} {h : Nat} {i : Instance}
    (hg : s.get? h = some i) : Keeps s (checkAffirmation s h).1 := by
  obtain ⟨f, es, hf, -, -, hk, -⟩ := checkAffirmation_visit hg
  exact ((Keeps.of_modify _ _ hf).trans (.of_emit _ _)).trans hk

/-- After a visit of `h`, its counter is the next one and every other counter is kept. -/
theorem counterOf_checkAffirmation {s : Master} (hw : WellFormed s) {h : Nat} {i : Instance}
    (hg : s.get? h = some i) (k : Nat) :
    counterOf (checkAffirmation s h).1 k = if k = h then i.nextAffirmationTimeout else counterOf s k := by
  obtain ⟨f, es, hf, hfi, he, -, -⟩ := checkAffirmation_visit hg
  have hk := checkAffirmation_keeps hg
  cases hj : (checkAffirmation s h).1.get? k with
  | some j =>
    obtain ⟨hmem, rfl⟩ := get?_mem hj
    rw [counterOf_of_mem (he (wellFormed_modify hw h hf)).1 hmem,
      counter_eq_of_evolves he (wellFormed_modify hw h hf) hmem, counterOf_emit, counterOf_modify hg hf, hfi]
  | none =>
    have hn : ∀ j ∈ (checkAffirmation s h).1.instances, j.handle ≠ k := by
      simpa using List.find?_eq_none.mp hj
    have hgone : ¬∃ j ∈ s.instances, j.handle = k := fun hr =>
      let ⟨j, hj, hjk⟩ := hk.registered hr
      hn j hj hjk
    simp only [counterOf, hj, Option.map_none', Option.getD_none]
    split
    · exact absurd ⟨i, (get?_mem hg).1, (get?_mem hg).2.trans ‹k = h›.symm⟩ hgone
    · exact (counterOf_of_not_mem fun j hj hjk => hgone ⟨j, hj, hjk⟩).symm

/-- The pass made the record `r` visiting `i`: the instance the handle pointed to, with
the counter it had before the pass. -/
def Visited (s : Master) (r : PassRecord) (i : Instance) : Prop :=
  i.handle = r.handle ∧ CounterInv i ∧ i.affirmationTimeout = counterOf s r.handle ∧
    r.pending = i.pendingAffirmations ∧ r.wedged = decide (i.nextAffirmationTimeout = 1000)

theorem affirmationPass_cons (s : Master) (h : Nat) (hs : List Nat) :
    affirmationPass s (h :: hs) = ((affirmationPass (checkAffirmation s h).1 hs).1,
      (checkAffirmation s h).2.toList ++ (affirmationPass (checkAffirmation s h).1 hs).2) := rfl

/-- The pass over a snapshot of distinct registered handles is a run of `Step`s that
records one visit per handle, in order, sets each visited counter to the next one and
keeps every other counter. -/
theorem affirmationPass_spec : ∀ (hs : List Nat) (s : Master), Reachable s → hs.Nodup →
    (∀ h ∈ hs, ∃ i ∈ s.instances, i.handle = h) →
    ReflTransGen Step s (affirmationPass s hs).1 ∧
      (affirmationPass s hs).2.map PassRecord.handle = hs ∧
      (∀ r ∈ (affirmationPass s hs).2, ∃ i, Visited s r i ∧
        counterOf (affirmationPass s hs).1 r.handle = i.nextAffirmationTimeout) ∧
      ∀ k ∉ hs, counterOf (affirmationPass s hs).1 k = counterOf s k
  | [], s, _, _, _ => ⟨.refl, rfl, by simp [affirmationPass], fun _ _ => rfl⟩
  | h :: hs, s, hr, hn, hreg => by
    obtain ⟨i, hi, rfl⟩ := hreg h (List.mem_cons_self _ _)
    have hw := hr.wellFormed
    have hg := hw.get?_eq hi
    have hfresh := (List.nodup_cons.mp hn).1
    obtain ⟨-, -, -, -, -, -, hrec⟩ := checkAffirmation_visit hg
    obtain ⟨hsteps, hmap, hvis, hrest⟩ := affirmationPass_spec hs _ (.step hr (.check _ _))
      (List.nodup_cons.mp hn).2
      fun k hk => (checkAffirmation_keeps hg).registered (hreg k (List.mem_cons_of_mem _ hk))
    have hc := counterOf_checkAffirmation hw hg
    rw [affirmationPass_cons, hrec]
    refine ⟨.head (.check _ _) hsteps, by simp [hmap], fun r hr' => ?_, fun k hk => ?_⟩
    · simp only [Option.toList_some, List.singleton_append, List.mem_cons] at hr'
      rcases hr' with rfl | hr'
      · refine ⟨i, ⟨rfl, reachable_counterInv hr i hi, (counterOf_of_mem hw hi).symm, rfl, rfl⟩, ?_⟩
        rw [hrest _ hfresh, hc, if_pos rfl]
      · obtain ⟨j, ⟨hjh, hji, hjc, hjp, hjw⟩, hjn⟩ := hvis r hr'
        have hmem : r.handle ∈ hs := hmap ▸ List.mem_map_of_mem _ hr'
        have hne : r.handle ≠ i.handle := fun he => hfresh (he ▸ hmem)
        exact ⟨j, ⟨hjh, hji, by rw [hjc, hc, if_neg hne], hjp, hjw⟩, hjn⟩
    · have hne : k ≠ i.handle := fun he => hk (he ▸ List.mem_cons_self _ _)
      rw [hrest k fun h' => hk (List.mem_cons_of_mem _ h'), hc, if_neg hne]

end MasterServer.Affirmation
