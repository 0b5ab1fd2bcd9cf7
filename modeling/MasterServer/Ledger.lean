import Mathlib.Data.Multiset.Basic
import Mathlib.Algebra.BigOperators.Group.List
import Mathlib.Tactic.Abel
import MasterServer.Timeout

/-!
# The transfer-request ledger

A request enters with `REQUEST_ZONE_TRANSFER` or `REQUEST_PRIVATE_ZONE`, waits in an
instance's queues, and leaves answered by a `ZONE_TRANSFER_RESPONSE`. On every run the
requests held plus those answered plus those dropped are exactly those received; a request
is dropped only with a removed instance's queues or for a password naming no instance.
-/

namespace MasterServer.Ledger

open Master

/-- Every request the registry holds. -/
def held (s : Master) : Multiset TransferRequest := (s.instances.map queued).sum

/-- The request a `ZONE_TRANSFER_RESPONSE` answers: its id and shift, and the peer it is
sent to. -/
def answers : Effect → Option TransferRequest
  | .send a (.zoneTransferResponse requestID mythranShift _ _ _ _ _) =>
    some ⟨requestID, mythranShift, a⟩
  | _ => none

/-- The requests a list of effects answers. -/
def answered (es : List Effect) : Multiset TransferRequest := (es.filterMap answers : List _)

/-- What the master accounts for: the requests it holds and those it has answered. -/
def accounted (s : Master) : Multiset TransferRequest := held s + answered s.effects

@[simp] theorem answered_append (es es' : List Effect) :
    answered (es ++ es') = answered es + answered es' := by
  simp [answered, List.filterMap_append]

theorem accounted_emit (s : Master) (es : List Effect) :
    accounted (s.emit es) = accounted s + answered es := by
  simp only [accounted, held, emit_instances, emit_effects, answered_append, add_assoc]

/-- A mutation that keeps every instance's queues keeps the books. -/
theorem held_modify_of_queued (s : Master) (h : Nat) {f : Instance → Instance}
    (hf : ∀ j, queued (f j) = queued j) : held (s.modify h f) = held s := by
  simp only [held, modify_instances, List.map_map]
  congr 1
  exact List.map_congr_left fun j _ => by by_cases hj : j.handle = h <;> simp [hj, hf]

theorem sum_map_update {l : List Instance} (hl : (l.map Instance.handle).Nodup) {i : Instance}
    (hi : i ∈ l) (f : Instance → Instance) :
    ((l.map fun j => if j.handle = i.handle then f j else j).map queued).sum + queued i =
      (l.map queued).sum + queued (f i) := by
  induction l with
  | nil => cases hi
  | cons j l ih =>
    simp only [List.map_cons, List.nodup_cons, List.mem_map, not_exists, not_and] at hl
    rcases List.mem_cons.mp hi with rfl | hi
    · have hrest : (l.map fun j => if j.handle = i.handle then f j else j) = l :=
        (List.map_congr_left (g := id) fun k hk => if_neg fun h => hl.1 k hk h).trans (List.map_id l)
      simp only [List.map_cons, ite_true, hrest, List.sum_cons]
      abel
    · have hne : j.handle ≠ i.handle := fun h => hl.1 i hi h.symm
      simp only [List.map_cons, if_neg hne, List.sum_cons, add_assoc, ih hl.2 hi]

theorem sum_map_filter {l : List Instance} (hl : (l.map Instance.handle).Nodup) {i : Instance}
    (hi : i ∈ l) : ((l.filter (·.handle ≠ i.handle)).map queued).sum + queued i =
      (l.map queued).sum := by
  induction l with
  | nil => cases hi
  | cons j l ih =>
    simp only [List.map_cons, List.nodup_cons, List.mem_map, not_exists, not_and] at hl
    rcases List.mem_cons.mp hi with rfl | hi
    · have hrest : l.filter (·.handle ≠ i.handle) = l :=
        List.filter_eq_self.mpr fun k hk => by simpa using hl.1 k hk
      rw [List.filter_cons_of_neg (by simp), hrest, List.map_cons, List.sum_cons, add_comm]
    · have hne : j.handle ≠ i.handle := fun h => hl.1 i hi h.symm
      simp only [List.filter_cons, ne_eq, hne, not_false_eq_true, decide_True, if_pos,
        List.map_cons, List.sum_cons, add_assoc, ih hl.2 hi]

section Registry

variable {s : Master} (hw : WellFormed s) {i : Instance} (hi : i ∈ s.instances)
include hw hi

/-- Mutating a registered instance changes the books by what it holds before and after. -/
theorem accounted_modify (f : Instance → Instance) :
    accounted (s.modify i.handle f) + queued i = accounted s + queued (f i) := by
  have := sum_map_update hw.1 hi f
  simp only [accounted, held, modify_instances, modify_effects] at this ⊢
  rw [add_right_comm, this, add_right_comm]

/-- Removing a registered instance drops what it holds. -/
theorem accounted_removeInstance :
    accounted (s.removeInstance i.handle) + queued i = accounted s := by
  have := sum_map_filter hw.1 hi
  simp only [accounted, held, removeInstance_instances, removeInstance_effects] at this ⊢
  rw [add_right_comm, this]

end Registry

theorem accounted_addInstance (s : Master) (mk : Nat → Instance) :
    accounted (s.addInstance mk) = accounted s + queued (mk s.nextHandle) := by
  simp only [accounted, held, addInstance_instances, addInstance_effects, List.map_append,
    List.sum_append, List.map_cons, List.map_nil, List.sum_cons, List.sum_nil, add_zero]
  abel

theorem queued_eq (i : Instance) :
    queued i = (i.pendingRequests : Multiset TransferRequest) + i.pendingAffirmations :=
  (Multiset.coe_add _ _).symm

theorem queued_enqueue (i : Instance) (r : TransferRequest) :
    queued { i with pendingRequests := i.pendingRequests ++ [r] } = queued i + {r} := by
  simp only [queued_eq, ← Multiset.coe_add, Multiset.coe_singleton]; abel

theorem queued_addAffirmation (i : Instance) (r : TransferRequest) :
    queued { i with pendingAffirmations := i.pendingAffirmations ++ [r] } = queued i + {r} := by
  simp only [queued_eq, ← Multiset.coe_add, Multiset.coe_singleton, add_assoc]

theorem queued_erase {i : Instance} {r : TransferRequest} (h : r ∈ i.pendingAffirmations) :
    queued { i with pendingAffirmations := i.pendingAffirmations.erase r } + {r} = queued i := by
  rw [queued_eq, queued_eq, add_assoc]
  dsimp only
  rw [← Multiset.coe_erase, add_comm _ ({r} : Multiset TransferRequest), Multiset.singleton_add,
    Multiset.cons_erase (Multiset.mem_coe.mpr h)]

/-- The `PREP_ZONE`s `ReadyInstance` sends answer nothing. -/
theorem answered_prepZones (a : SysAddr) (mapID : Nat) (rs : List TransferRequest) :
    answered (rs.map fun r => .send a (.prepZone mapID r.requestID)) = 0 := by
  induction rs <;> simp_all [answered, answers]

section Update

variable {s : Master} (hw : WellFormed s) {i : Instance} (hi : i ∈ s.instances)
include hw hi

/-- A mutation adding `d` to a registered instance's queues adds `d` to the books. -/
theorem accounted_modify_add (f : Instance → Instance) (d : Multiset TransferRequest)
    (hq : queued (f i) = queued i + d) : accounted (s.modify i.handle f) = accounted s + d :=
  add_right_cancel (b := queued i) (by rw [accounted_modify hw hi, hq]; abel)

end Update

theorem accounted_launchInstance (s : Master) (mapID cloneID : Nat) (pw : Option (List UInt8)) :
    accounted (launchInstance s mapID cloneID pw).1 = accounted s := by
  rw [launchInstance, accounted_emit, accounted_addInstance]
  simp [queued, answered, answers, newInstance]

/-- `RequestAffirmation` moves a request into the books of a registered instance. -/
theorem accounted_requestAffirmation {s : Master} (hw : WellFormed s) {i : Instance}
    (hi : i ∈ s.instances) (r : TransferRequest) :
    accounted (requestAffirmation s i r) = accounted s + {r} := by
  rw [requestAffirmation, accounted_emit,
    accounted_modify_add hw hi _ {r} (queued_addAffirmation i r)]
  simp [answered, answers]

/-- `ReadyInstance` moves the queued requests to the affirmations: the books do not change. -/
theorem accounted_readyInstance {s : Master} (hw : WellFormed s) {i : Instance}
    (hi : i ∈ s.instances) : accounted (readyInstance s i) = accounted s := by
  rw [readyInstance_eq, accounted_emit, answered_prepZones, add_zero,
    accounted_modify_add hw hi _ 0 (by simp [queued, List.perm_append_comm]), add_zero]

/-- `AffirmTransfer` answers the request it takes out of the affirmations. -/
theorem accounted_affirmTransfer {s : Master} (hw : WellFormed s) {i : Instance}
    (hi : i ∈ s.instances) {r : TransferRequest} (hr : r ∈ i.pendingAffirmations) :
    accounted ((s.modify i.handle fun j =>
        { j with pendingAffirmations := j.pendingAffirmations.erase r }).emit
      [.send r.requester (.zoneTransferResponse r.requestID r.mythranShift i.mapID i.instanceID
        i.cloneID i.ip i.port)]) = accounted s := by
  refine add_right_cancel (b := queued i) ?_
  rw [accounted_emit, add_right_comm, accounted_modify hw hi, ← queued_erase hr, add_assoc]
  rfl

/-- Work that sends nothing answering a request and keeps every queue keeps the books. -/
theorem accounted_emit_of_none (s : Master) {es : List Effect} (h : ∀ e ∈ es, answers e = none) :
    accounted (s.emit es) = accounted s := by
  rw [accounted_emit, answered, List.filterMap_eq_nil_iff.mpr h, Multiset.coe_nil, add_zero]

theorem accounted_modify_of_queued (s : Master) (h : Nat) {f : Instance → Instance}
    (hf : ∀ j, queued (f j) = queued j) : accounted (s.modify h f) = accounted s := by
  simp only [accounted, held_modify_of_queued s h hf, modify_effects]

theorem accounted_setSessionKey (s : Master) (sessionKey : Nat) (username : String) :
    accounted (setSessionKey s sessionKey username) = accounted s := by
  obtain ⟨es, he, hb⟩ := setSessionKey_frame s sessionKey username
  rw [he]
  exact accounted_emit_of_none s fun e h => hb e h ▸ rfl

theorem answers_of_isReply {msg : OutMessage} (h : msg.isReply = true) (a : SysAddr) :
    answers (.send a msg) = none := by
  cases msg <;> first | rfl | cases h

/-- **One act keeps the books**: what it takes in is held, answered or dropped. -/
theorem accounted_act {src : Source} {tk dr : Multiset TransferRequest} {s t : Master}
    (h : Act src tk dr s t) (hw : WellFormed s) : accounted t + dr = accounted s + tk := by
  cases h with
  | launch => simp [accounted_launchInstance]
  | enqueue hi => simpa using accounted_modify_add hw hi _ _ (queued_enqueue _ _)
  | requestAffirmation hi => simpa using accounted_requestAffirmation hw hi _
  | removePeer hi => simpa using accounted_removeInstance hw (List.mem_of_find?_eq_some hi)
  | registerWorld =>
    rw [accounted_addInstance]
    simp [queued, newInstance]
  | setSessionKey => simp [accounted_setSessionKey]
  | readyInstance hi => simp [accounted_readyInstance hw hi]
  | affirmTransfer hi hr => simp [accounted_affirmTransfer hw hi hr]
  | answerPrivateZone => rw [accounted_emit, add_zero]; rfl
  | refusePrivateZone => rfl
  | reply _ _ _ h =>
    simpa using accounted_emit_of_none s (List.forall_mem_singleton.mpr (answers_of_isReply h _))
  | setSysAddr | changePlayers | setShuttingDown =>
    refine congrArg (· + 0) (accounted_modify_of_queued _ _ ?_)
    exact fun _ => rfl
  | restartChatServer | generatePersistentID | shutdownInstance | nullDereference =>
    exact congrArg (· + 0) (accounted_emit_of_none _ (List.forall_mem_singleton.mpr rfl))
  | rememberChatServer | shutdownUniverse => rfl

/-- A chain of acts keeps the books. -/
theorem accounted_acts {src : Source} {tk dr : Multiset TransferRequest} {s t : Master}
    (h : Acts src tk dr s t) (hw : WellFormed s) : accounted t + dr = accounted s + tk := by
  induction h with
  | refl => rfl
  | @tail tk dr tk' dr' s t u h₁ ha ih =>
    calc accounted u + (dr + dr') = accounted u + dr' + dr := by abel
      _ = accounted t + dr + tk' := by rw [accounted_act ha (h₁.evolves hw).1]; abel
      _ = accounted s + (tk + tk') := by rw [ih hw]; abel

/-- The requests a packet hands the master. -/
def received (p : Packet) : Multiset TransferRequest :=
  ((p.master.map (requests p.systemAddress)).getD [] : List TransferRequest)

/-- The requests a packet makes the master drop: those of the peer's instance on a
transport event, and a private-zone request no instance answers. -/
def dropped (s : Master) (p : Packet) : Multiset TransferRequest :=
  notified s p.systemAddress p.notification +
    (p.master.map (refused (handleNotification s p.systemAddress p.notification)
      p.systemAddress)).getD 0

/-- **`HandlePacket` keeps the books**: what the packet brings is held, answered or
dropped. -/
theorem accounted_handlePacket {s : Master} (hw : WellFormed s) (p : Packet) :
    accounted (handlePacket s p) + dropped s p = accounted s + received p := by
  have hn := handleNotification_acts s p.systemAddress p.notification
  have hb := accounted_acts hn hw
  rw [add_zero] at hb
  unfold handlePacket dropped received
  split
  · rename_i m hm
    have := accounted_acts (handleMasterMessage_acts _ p.systemAddress m) (hn.evolves hw).1
    rw [hm]
    simp only [Option.map_some', Option.getD_some]
    rw [← hb, add_comm (notified _ _ _), ← add_assoc, this]
    abel
  · rename_i hm
    rw [hm]
    simp only [Option.map_none', Option.getD_none, add_zero, Multiset.coe_nil]
    exact hb

/-- The requests the reaping pass drops with an instance that completed its shutdown. -/
def reaped (s : Master) (h : Nat) : Multiset TransferRequest :=
  match s.get? h with
  | some i => if i.shutdownComplete then queued i else 0
  | none => 0

theorem accounted_reapInstance {s : Master} (hw : WellFormed s) (h : Nat) :
    accounted (reapInstance s h) + reaped s h = accounted s := by
  unfold reapInstance reaped
  cases hg : s.get? h with
  | none => exact add_zero _
  | some i =>
    obtain ⟨hi, rfl⟩ := get?_mem hg
    dsimp only
    split
    exacts [accounted_removeInstance hw hi, add_zero _]

/-- The timeout pass keeps the books: a wedged instance's requests move to other instances. -/
theorem accounted_checkAffirmation {s : Master} (hw : WellFormed s) (h : Nat) :
    accounted (checkAffirmation s h).1 = accounted s := by
  unfold checkAffirmation
  split
  · rfl
  · rename_i i hg
    obtain ⟨hi, rfl⟩ := get?_mem hg
    dsimp only
    split
    · unfold redirectPendingRequests
      rw [modify_emit, modify_modify, modify_emit, modify_modify]
      · dsimp only
        rw [← add_zero (accounted (List.foldl _ _ _)),
          accounted_acts (redirect_acts i _ _ fun _ h => h) ?_, accounted_emit_of_none _ ?_]
        · refine add_right_cancel (b := queued i) ?_
          rw [add_right_comm, accounted_modify hw hi]
          simp [queued, List.perm_append_comm, add_comm]
        · exact List.forall_mem_singleton.mpr rfl
        · exact Affirmation.wellFormed_modify hw _ fun _ => rfl
      all_goals exact fun _ => rfl
    · exact accounted_modify_of_queued _ _ fun _ => rfl

theorem accounted_countdown (s : Master) : accounted (countdown s) = accounted s := by
  unfold countdown; split <;> rfl

theorem accounted_shutdownInstances (s : Master) : accounted (shutdownInstances s) = accounted s :=
  accounted_emit_of_none _ fun _ he => by obtain ⟨_, -, rfl⟩ := List.mem_map.mp he; rfl

theorem accounted_startup (externalIP : String) (prestart : Bool) :
    accounted (startup externalIP prestart) = 0 := by
  cases prestart <;> rfl

/-- A run of the master from startup with its books: every request the packets handed it,
and every request it dropped. The steps are those of `Step`. -/
inductive Run : Master → Multiset TransferRequest → Multiset TransferRequest → Prop
  | startup (externalIP : String) (prestart : Bool) : Run (startup externalIP prestart) 0 0
  | dispatch {s : Master} {rcv drp : Multiset TransferRequest} (p : Packet) :
      Run s rcv drp → Run (handlePacket s p) (rcv + received p) (drp + dropped s p)
  | countdown {s : Master} {rcv drp : Multiset TransferRequest} :
      Run s rcv drp → Run (countdown s) rcv drp
  | check {s : Master} {rcv drp : Multiset TransferRequest} (h : Nat) :
      Run s rcv drp → Run (checkAffirmation s h).1 rcv drp
  | reap {s : Master} {rcv drp : Multiset TransferRequest} (h : Nat) :
      Run s rcv drp → Run (reapInstance s h) rcv (drp + reaped s h)
  | shutdownInstances {s : Master} {rcv drp : Multiset TransferRequest} :
      Run s rcv drp → Run (shutdownInstances s) rcv drp

theorem Run.reachable {s : Master} {rcv drp : Multiset TransferRequest} (h : Run s rcv drp) :
    Reachable s := by
  induction h with
  | startup ip prestart => exact .startup ip prestart
  | dispatch p _ ih => exact .step ih (.dispatch _ p)
  | countdown _ ih => exact .step ih (.countdown _)
  | check h _ ih => exact .step ih (.check _ h)
  | reap h _ ih => exact .step ih (.reap _ h)
  | shutdownInstances _ ih => exact .step ih (.shutdownInstances _)

/-- Every reachable state is the end of a run with books. -/
theorem Reachable.run {s : Master} (h : Reachable s) : ∃ rcv drp, Run s rcv drp := by
  induction h with
  | startup ip prestart => exact ⟨0, 0, .startup ip prestart⟩
  | step _ hst ih =>
    obtain ⟨rcv, drp, hr⟩ := ih
    cases hst with
    | dispatch p => exact ⟨_, _, hr.dispatch p⟩
    | countdown => exact ⟨_, _, hr.countdown⟩
    | check h => exact ⟨_, _, hr.check h⟩
    | reap h => exact ⟨_, _, hr.reap h⟩
    | shutdownInstances => exact ⟨_, _, hr.shutdownInstances⟩

/-- The books of a run, by induction on the run: one case per step, each from the lemma
of the operation it performs. -/
theorem Run.books {s : Master} {rcv drp : Multiset TransferRequest} (h : Run s rcv drp) :
    accounted s + drp = rcv := by
  induction h with
  | startup ip prestart => rw [accounted_startup, add_zero]
  | @dispatch s rcv drp p hr ih =>
    have hp := accounted_handlePacket hr.reachable.wellFormed p
    calc accounted (handlePacket s p) + (drp + dropped s p)
        = (accounted (handlePacket s p) + dropped s p) + drp := by abel
      _ = rcv + received p := by rw [hp, ← ih]; abel
  | countdown _ ih => rwa [accounted_countdown]
  | check h hr ih => rwa [accounted_checkAffirmation hr.reachable.wellFormed]
  | @reap s rcv drp h hr ih =>
    rw [← ih, ← accounted_reapInstance hr.reachable.wellFormed h]; abel
  | shutdownInstances _ ih => rwa [accounted_shutdownInstances]

/-- **The books balance on every run.** The requests the registry holds, plus those the
master has answered with a `ZONE_TRANSFER_RESPONSE`, plus those it dropped with a removed
instance or a refused password, are exactly the requests it received, counted with
multiplicity, whatever the interleaving of packets, timeout passes, reaping and shutdown. -/
theorem Run.balance {s : Master} {rcv drp : Multiset TransferRequest} (h : Run s rcv drp) :
    held s + answered s.effects + drp = rcv :=
  h.books

/-- The books after the prestarted world of zone 0 registers from (2, 2), a request to zone 0
from (1, 1), and that world's affirmation. -/
theorem balance_request_affirmed :
    let w : Packet := ⟨⟨2, 2⟩, none, some (.serverInfo 1 0 1 .world "")⟩
    let p : Packet := ⟨⟨1, 1⟩, none, some (.requestZoneTransfer 7 0 0 0)⟩
    let q : Packet := ⟨⟨2, 2⟩, none, some (.affirmTransferResponse 7)⟩
    let s₀ : Master := handlePacket (startup "" true) w
    let s : Master := handlePacket s₀ p
    held (handlePacket s q) + answered (handlePacket s q).effects +
        (0 + dropped (startup "" true) w + dropped s₀ p + dropped s q) =
      0 + received w + received p + received q :=
  Run.balance ((((Run.startup "" true).dispatch _).dispatch _).dispatch _)

/-- **No request is answered more often than it was received**: a requester never gets
two `ZONE_TRANSFER_RESPONSE`s for one request. -/
theorem Run.answered_le {s : Master} {rcv drp : Multiset TransferRequest} (h : Run s rcv drp) :
    answered s.effects ≤ rcv := by
  rw [← h.books, accounted]
  exact (Multiset.le_add_left _ _).trans (Multiset.le_add_right _ _)

/-- What is answered after the prestarted world of zone 0 registers from (2, 2), a request
to zone 0 from (1, 1), and that world's affirmation. -/
theorem answered_le_request_affirmed :
    let w : Packet := ⟨⟨2, 2⟩, none, some (.serverInfo 1 0 1 .world "")⟩
    let p : Packet := ⟨⟨1, 1⟩, none, some (.requestZoneTransfer 7 0 0 0)⟩
    let q : Packet := ⟨⟨2, 2⟩, none, some (.affirmTransferResponse 7)⟩
    let s : Master := handlePacket (handlePacket (startup "" true) w) p
    answered (handlePacket s q).effects ≤ 0 + received w + received p + received q :=
  Run.answered_le ((((Run.startup "" true).dispatch _).dispatch _).dispatch _)

/-- What `Receive` returned, when it returned a packet, handed the master. -/
def receivedOf (p : Option Packet) : Multiset TransferRequest := (p.map received).getD 0

/-- The requests the first `t` results of `Receive` handed the master. -/
def receivedBy (σ : Nat → Option Packet) (t : Nat) : Multiset TransferRequest :=
  ((List.range t).map fun k => receivedOf (σ k)).sum

theorem receivedBy_succ (σ : Nat → Option Packet) (t : Nat) :
    receivedBy σ (t + 1) = receivedBy σ t + receivedOf (σ t) := by
  simp only [receivedBy, List.range_succ, List.map_append, List.sum_append, List.map_cons,
    List.map_nil, List.sum_cons, List.sum_nil, add_zero]

section Loop

variable {s : Master} {rcv drp : Multiset TransferRequest}

theorem Run.dispatchOf (h : Run s rcv drp) (p : Option Packet) :
    ∃ drp', Run (MasterServer.dispatch s p) (rcv + receivedOf p) drp' := by
  cases p with
  | none => exact ⟨drp, (add_zero rcv).symm ▸ h⟩
  | some p => exact ⟨_, h.dispatch p⟩

theorem Run.affirmationPass (hs : List Nat) (h : Run s rcv drp) :
    Run (MasterServer.affirmationPass s hs).1 rcv drp := by
  induction hs generalizing s with
  | nil => exact h
  | cons k hs ih => rw [Affirmation.affirmationPass_cons]; exact ih (h.check k)

theorem Run.reapPass (hs : List Nat) (h : Run s rcv drp) :
    ∃ drp', Run (MasterServer.reapPass s hs) rcv drp' := by
  induction hs generalizing s drp with
  | nil => exact ⟨drp, h⟩
  | cons k hs ih => exact ih (h.reap k)

/-- One iteration of the loop hands the master at most what `Receive` returned. -/
theorem Run.loopStep {l : Loop} (h : Run l.master rcv drp) (p : Option Packet) :
    ∃ rcv' drp', Run (l.step p).1.master rcv' drp' ∧ rcv' ≤ rcv + receivedOf p := by
  cases hl : l.running with
  | false =>
    rw [Timeout.step_stopped hl]
    exact ⟨rcv, drp, h, Multiset.le_add_right _ _⟩
  | true =>
    obtain ⟨drp', hd⟩ := h.dispatchOf p
    rcases Timeout.step_running hl p with e | ⟨e, -⟩ <;> rw [e]
    · obtain ⟨drp'', hr⟩ := (hd.countdown.affirmationPass _).reapPass
        ((MasterServer.countdown (MasterServer.dispatch l.master p)).instances.map Instance.handle)
      exact ⟨_, drp'', hr, le_rfl⟩
    · exact ⟨_, drp', hd, le_rfl⟩

end Loop

theorem trace_run (ip : String) (prestart : Bool) (σ : Nat → Option Packet) :
    ∀ t, ∃ rcv drp, Run (trace (startup ip prestart) σ t).master rcv drp ∧ rcv ≤ receivedBy σ t
  | 0 => ⟨0, 0, .startup ip prestart, le_rfl⟩
  | t + 1 => by
    obtain ⟨rcv, drp, h, hle⟩ := trace_run ip prestart σ t
    obtain ⟨rcv', drp', h', hle'⟩ := h.loopStep (σ t)
    rw [receivedBy_succ]
    exact ⟨rcv', drp', h', hle'.trans (add_le_add_right hle _)⟩

/-- **The main loop keeps the books.** After any number of iterations of `main`'s loop
from startup, whatever `Receive` returns, the requests the registry holds together with
those the master has answered with a `ZONE_TRANSFER_RESPONSE` are among the requests the
received packets carried, counted with multiplicity. -/
theorem trace_accounted_le (ip : String) (prestart : Bool) (σ : Nat → Option Packet) (t : Nat) :
    held (trace (startup ip prestart) σ t).master +
        answered (trace (startup ip prestart) σ t).master.effects ≤ receivedBy σ t := by
  obtain ⟨rcv, drp, h, hle⟩ := trace_run ip prestart σ t
  exact (Multiset.le_add_right _ drp).trans (h.books.symm ▸ hle)

end MasterServer.Ledger
