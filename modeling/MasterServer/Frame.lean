import Mathlib.Data.List.Nodup
import Mathlib.Logic.Relation
import MasterServer.ControlLoop

/-!
# What a step can do to an instance

Every step of the master changes a registered instance only through a short
list of operations (`Change`, and for the timeout pass `PassChange`), removes
it, or registers a new, pristine one at an unused handle. `Evolves R s s'`
says so of a computation from `s` to `s'`, together with the uniqueness of
handles, and is proved once per operation; the invariants of the later
modules then follow by a case analysis on `Change`, not on the handlers.
-/

namespace MasterServer

open Master Relation

/-- Handles, the model's `Instance*`, are distinct and below the next handle. -/
def WellFormed (s : Master) : Prop :=
  (s.instances.map Instance.handle).Nodup ∧ ∀ i ∈ s.instances, i.handle < s.nextHandle

/-- A freshly constructed instance: not ready, not shutting down, nothing queued, its
shutdown not complete. -/
def Pristine (i : Instance) : Prop :=
  i.ready = false ∧ i.shuttingDown = false ∧ i.pendingRequests = [] ∧
    i.pendingAffirmations = [] ∧ i.affirmationTimeout = 0 ∧ i.shutdownComplete = false

/-- What handling a packet, the prestart or a zone resolution does to one instance. -/
inductive Change : Instance → Instance → Prop
  | enqueue (i : Instance) (r : TransferRequest) (hr : i.ready = false)
      (hs : i.shuttingDown = false) :
      Change i { i with pendingRequests := i.pendingRequests ++ [r] }
  | requestAffirmation (i : Instance) (r : TransferRequest) (hs : i.shuttingDown = false) :
      Change i { i with pendingAffirmations := i.pendingAffirmations ++ [r] }
  | readyInstance (i : Instance) :
      Change i { i with ready := true, pendingRequests := [], pendingAffirmations := i.pendingAffirmations ++ i.pendingRequests }
  | affirmTransfer (i : Instance) (r : TransferRequest) :
      Change i { i with pendingAffirmations := i.pendingAffirmations.erase r }
  | setSysAddr (i : Instance) (a : SysAddr) : Change i { i with sysAddr := a }
  | setPlayers (i : Instance) (n : Nat) : Change i { i with players := n }
  | setShuttingDown (i : Instance) : Change i { i with shuttingDown := true }
  | setReady (i : Instance) (h : i.pendingRequests = []) : Change i { i with ready := true }

/-- `Change`, or one visit of the affirmation-timeout pass. -/
inductive PassChange : Instance → Instance → Prop
  | change {i i' : Instance} : Change i i' → PassChange i i'
  | count (i : Instance) (h : i.nextAffirmationTimeout ≠ 1000) :
      PassChange i { i with affirmationTimeout := i.nextAffirmationTimeout }
  | wedge (i : Instance) (h : i.nextAffirmationTimeout = 1000) :
      PassChange i { i with affirmationTimeout := 1000, shuttingDown := true, pendingAffirmations := [], pendingRequests := [] }

theorem Change.handle {i i' : Instance} (h : Change i i') : i'.handle = i.handle := by
  cases h <;> rfl

theorem PassChange.handle {i i' : Instance} (h : PassChange i i') : i'.handle = i.handle := by
  cases h with
  | change h => exact h.handle
  | _ => rfl

/-- Every instance of `s'` comes by `R`-steps from one of `s`, or from a pristine
instance at a handle `s` had not handed out. -/
def Descends (R : Instance → Instance → Prop) (s s' : Master) : Prop :=
  s.nextHandle ≤ s'.nextHandle ∧
    ∀ i' ∈ s'.instances, ∃ i, (i ∈ s.instances ∨ (Pristine i ∧ s.nextHandle ≤ i.handle)) ∧
      ReflTransGen R i i'

/-- A computation from `s` to `s'` that keeps handles well formed and changes
instances only by `R`. -/
def Evolves (R : Instance → Instance → Prop) (s s' : Master) : Prop :=
  WellFormed s → WellFormed s' ∧ Descends R s s'

section Primitives

variable {R : Instance → Instance → Prop} {s s₁ s₂ s₃ : Master}

theorem WellFormed.eq_of_handle (hw : WellFormed s) {i j : Instance} (hi : i ∈ s.instances)
    (hj : j ∈ s.instances) (h : j.handle = i.handle) : j = i :=
  List.inj_on_of_nodup_map hw.1 hj hi h

theorem WellFormed.get?_eq (hw : WellFormed s) {i : Instance} (hi : i ∈ s.instances) :
    s.get? i.handle = some i := by
  obtain ⟨j, hj, hfind⟩ : ∃ j ∈ s.instances, s.get? i.handle = some j := by
    cases h : s.get? i.handle with
    | none => exact absurd (List.find?_eq_none.mp h i hi) (by simp)
    | some j => exact ⟨j, List.mem_of_find?_eq_some h, rfl⟩
  have hh : j.handle = i.handle := by simpa using List.find?_some hfind
  rw [hfind, hw.eq_of_handle hi hj hh]

theorem get?_mem {h : Nat} {i : Instance} (hg : s.get? h = some i) :
    i ∈ s.instances ∧ i.handle = h :=
  ⟨List.mem_of_find?_eq_some hg, by simpa using List.find?_some hg⟩

/-- An instance of `s.modify h f` at the handle `h` is `f` of an instance of `s` there. -/
theorem mem_modify_of_handle {h : Nat} {f : Instance → Instance} {k : Instance}
    (hk : k ∈ (s.modify h f).instances) (hkh : k.handle = h) :
    ∃ j ∈ s.instances, j.handle = h ∧ k = f j := by
  obtain ⟨j, hj, rfl⟩ := List.mem_map.mp hk
  by_cases hjh : j.handle = h
  · exact ⟨j, hj, hjh, if_pos hjh⟩
  · rw [if_neg hjh] at hkh
    exact absurd hkh hjh

theorem Evolves.refl (s : Master) : Evolves R s s :=
  fun hw => ⟨hw, le_rfl, fun i hi => ⟨i, .inl hi, .refl⟩⟩

theorem Evolves.trans (h₁ : Evolves R s₁ s₂) (h₂ : Evolves R s₂ s₃) : Evolves R s₁ s₃ := by
  intro hw
  obtain ⟨hw₂, hle₁, hd₁⟩ := h₁ hw
  obtain ⟨hw₃, hle₂, hd₂⟩ := h₂ hw₂
  refine ⟨hw₃, le_trans hle₁ hle₂, fun i₃ hi₃ => ?_⟩
  obtain ⟨i₂, hi₂ | ⟨hp, hn⟩, hr₂⟩ := hd₂ i₃ hi₃
  · obtain ⟨i₁, ho, hr₁⟩ := hd₁ i₂ hi₂
    exact ⟨i₁, ho, hr₁.trans hr₂⟩
  · exact ⟨i₂, .inr ⟨hp, le_trans hle₁ hn⟩, hr₂⟩

theorem Evolves.mono {R' : Instance → Instance → Prop} (hR : ∀ i i', R i i' → R' i i')
    (h : Evolves R s₁ s₂) : Evolves R' s₁ s₂ := by
  intro hw
  obtain ⟨hw₂, hle, hd⟩ := h hw
  refine ⟨hw₂, hle, fun i' hi' => ?_⟩
  obtain ⟨i, ho, hr⟩ := hd i' hi'
  exact ⟨i, ho, hr.mono hR⟩

/-- Work that leaves the registry and the handle counter alone. -/
theorem Evolves.of_eq (h₁ : s₂.instances = s₁.instances) (h₂ : s₂.nextHandle = s₁.nextHandle) :
    Evolves R s₁ s₂ := by
  intro hw
  refine ⟨⟨h₁ ▸ hw.1, h₁ ▸ h₂ ▸ hw.2⟩, h₂ ▸ le_rfl, fun i hi => ⟨i, .inl (h₁ ▸ hi), .refl⟩⟩

theorem evolves_emit (s : Master) (es : List Effect) : Evolves R s (s.emit es) :=
  .of_eq rfl rfl

theorem evolves_modify (s : Master) (h : Nat) (f : Instance → Instance)
    (hf : ∀ i, (f i).handle = i.handle)
    (hR : WellFormed s → ∀ i ∈ s.instances, i.handle = h → R i (f i)) :
    Evolves R s (s.modify h f) := by
  intro hw
  have hmap : (s.modify h f).instances.map Instance.handle = s.instances.map Instance.handle := by
    simp only [modify_instances, List.map_map]
    exact List.map_congr_left fun i _ => by by_cases hi : i.handle = h <;> simp [hi, hf]
  refine ⟨⟨hmap ▸ hw.1, fun i' hi' => ?_⟩, le_rfl, fun i' hi' => ?_⟩ <;>
    obtain ⟨i, hi, rfl⟩ := List.mem_map.mp hi'
  · have := hw.2 i hi
    by_cases hh : i.handle = h <;> simp [hh, hf] <;> omega
  · by_cases hh : i.handle = h
    · exact ⟨i, .inl hi, by simpa [hh] using ReflTransGen.single (hR hw i hi hh)⟩
    · exact ⟨i, .inl hi, by simpa [hh] using ReflTransGen.refl⟩

/-- Mutating one registered instance by an `R`-step. -/
theorem evolves_modify_self {s : Master} {i : Instance} (hi : i ∈ s.instances)
    (f : Instance → Instance) (hf : ∀ j, (f j).handle = j.handle) (hR : R i (f i)) :
    Evolves R s (s.modify i.handle f) :=
  evolves_modify s i.handle f hf fun hw j hj hh => by rw [hw.eq_of_handle hi hj hh]; exact hR

theorem evolves_removeInstance (s : Master) (h : Nat) : Evolves R s (s.removeInstance h) := by
  intro hw
  refine ⟨⟨?_, fun i hi => hw.2 i (List.mem_of_mem_filter hi)⟩, le_rfl,
    fun i hi => ⟨i, .inl (List.mem_of_mem_filter hi), .refl⟩⟩
  exact (hw.1.sublist (List.Sublist.map _ (List.filter_sublist _)))

theorem evolves_addInstance (s : Master) (mk : Nat → Instance)
    (hh : (mk s.nextHandle).handle = s.nextHandle) (hp : Pristine (mk s.nextHandle)) :
    Evolves R s (s.addInstance mk) := by
  intro hw
  refine ⟨⟨?_, fun i hi => ?_⟩, Nat.le_succ _, fun i hi => ?_⟩
  · simp only [addInstance_instances, List.map_append, List.map_cons, List.map_nil]
    refine List.nodup_append.mpr ⟨hw.1, List.nodup_singleton _, ?_⟩
    simp only [List.disjoint_singleton, List.mem_map, not_exists, not_and, hh]
    exact fun i hi he => absurd (hw.2 i hi) (by omega)
  · rcases List.mem_append.mp hi with hi | hi
    · exact Nat.lt_succ_of_lt (hw.2 i hi)
    · rw [List.mem_singleton.mp hi, hh]; exact Nat.lt_succ_self _
  · rcases List.mem_append.mp hi with hi | hi
    · exact ⟨i, .inl hi, .refl⟩
    · rw [List.mem_singleton.mp hi]
      exact ⟨_, .inr ⟨hp, hh.ge⟩, .refl⟩

/-- A property kept by every `R`-step is kept along a chain of them. -/
theorem chain_preserves (P : Instance → Prop) (hc : ∀ i i', R i i' → P i → P i') {i i' : Instance}
    (hr : ReflTransGen R i i') (hi : P i) : P i' := by
  induction hr with
  | refl => exact hi
  | tail _ hstep ih => exact hc _ _ hstep ih

/-- A property kept by every `R`-step and held by pristine instances passes down. -/
theorem Descends.forall {P : Instance → Prop} (hd : Descends R s₁ s₂)
    (hp : ∀ i, Pristine i → P i) (hc : ∀ i i', R i i' → P i → P i')
    (hs : ∀ i ∈ s₁.instances, P i) : ∀ i ∈ s₂.instances, P i := by
  intro i' hi'
  obtain ⟨i, ho, hr⟩ := hd.2 i' hi'
  exact chain_preserves P hc hr (ho.elim (hs i) fun h => hp i h.1)

/-- A fold whose every step evolves, evolves. -/
theorem evolves_foldl {α : Type} (f : Master → α → Master) (hf : ∀ s a, Evolves R s (f s a)) :
    ∀ (l : List α) (s : Master), Evolves R s (l.foldl f s)
  | [], s => .refl s
  | a :: as, s => (hf s a).trans (evolves_foldl f hf as (f s a))

end Primitives

end MasterServer
