import MasterServer.Timeout

/-!
# Sent to the map it asked for

`Routed A s`: every request an instance holds was asked, for that instance's map, in `A`,
and the instance is public. Every act keeps it once what its source asks for is in `A`, so
along every run (`History`) the `ZONE_TRANSFER_RESPONSE` an affirmation triggers names the
map the request's sender asked for, with the request's id and shift.
-/

namespace MasterServer.Routing

open Master

/-- The request, with the zone it names, that a master message from `addr` asks for: the
zone of `REQUEST_ZONE_TRANSFER` narrowed to an `LWOMAPID` as the handler passes it on. -/
def asked (addr : SysAddr) : MasterMessage → List (TransferRequest × Nat)
  | .requestZoneTransfer requestID mythranShift zoneID _ =>
    [(⟨requestID, mythranShift != 0, addr⟩, zoneID.toNat % 2 ^ 16)]
  | _ => []

/-- What a list of packets asked for, in order. -/
def askedBy (ps : List Packet) : List (TransferRequest × Nat) :=
  ps.flatMap fun p => (p.master.map (asked p.systemAddress)).getD []

/-- The requests an instance holds, queued or awaiting affirmation. -/
def holds (i : Instance) : List TransferRequest := i.pendingRequests ++ i.pendingAffirmations

/-- Every request an instance holds was asked, for the instance's map, in `A`, and the
instance is public. -/
def Routed (A : List (TransferRequest × Nat)) (s : Master) : Prop :=
  ∀ i ∈ s.instances, ∀ r ∈ holds i, (r, i.mapID) ∈ A ∧ i.privatePassword = none

/-- What a master message asks for is what its source hands to zone resolution. -/
theorem asks_message (addr : SysAddr) (m : MasterMessage) :
    (Source.message addr m).asks = asked addr m := by
  cases m <;> rfl

section Primitives

variable {A : List (TransferRequest × Nat)} {s : Master} (hr : Routed A s)
include hr

theorem Routed.mono {B : List (TransferRequest × Nat)} (hAB : A ⊆ B) : Routed B s :=
  fun i hi r hri => (hr i hi r hri).imp_left (hAB ·)

/-- Only public instances await affirmations. -/
theorem Routed.public : ∀ i ∈ s.instances, i.pendingAffirmations ≠ [] →
    i.privatePassword = none := fun i hi hne =>
  let ⟨r, hmem⟩ := List.exists_mem_of_ne_nil _ hne
  (hr i hi r (List.mem_append_right _ hmem)).2

/-- A mutation that keeps the map and the password and takes no request in keeps the
invariant. -/
theorem routed_modify (h : Nat) {f : Instance → Instance}
    (hf : ∀ j, (f j).mapID = j.mapID ∧ (f j).privatePassword = j.privatePassword ∧
      ∀ r ∈ holds (f j), r ∈ holds j) :
    Routed A (s.modify h f) := by
  intro i hi r hri
  obtain ⟨j, hj, rfl⟩ := List.mem_map.mp hi
  by_cases hjh : j.handle = h
  · rw [if_pos hjh] at hri ⊢
    rw [(hf j).1, (hf j).2.1]
    exact hr j hj r ((hf j).2.2 r hri)
  · rw [if_neg hjh] at hri ⊢
    exact hr j hj r hri

theorem routed_addInstance {mk : Nat → Instance} (hmk : holds (mk s.nextHandle) = []) :
    Routed A (s.addInstance mk) := by
  intro i hi r hri
  rcases List.mem_append.mp hi with hi | hi
  · exact hr i hi r hri
  · rw [List.mem_singleton.mp hi, hmk] at hri; cases hri

theorem routed_removeInstance (h : Nat) : Routed A (s.removeInstance h) :=
  fun i hi => hr i (List.mem_of_mem_filter hi)

/-- A mutation of a registered instance that keeps its map and its password and takes in
only requests asked for that map, and only if it is public, keeps the invariant. -/
theorem routed_modify_self (hw : WellFormed s) {i : Instance} (hi : i ∈ s.instances)
    (f : Instance → Instance) (hm : (f i).mapID = i.mapID ∧ (f i).privatePassword = i.privatePassword)
    (hf : ∀ r ∈ holds (f i), r ∈ holds i ∨ (r, i.mapID) ∈ A ∧ i.privatePassword = none) :
    Routed A (s.modify i.handle f) := by
  intro j hj r hrj
  obtain ⟨k, hk, rfl⟩ := List.mem_map.mp hj
  by_cases hkh : k.handle = i.handle
  · rw [hw.eq_of_handle hi hk hkh, if_pos rfl] at hrj ⊢
    rw [hm.1, hm.2]
    exact (hf r hrj).elim (hr i hi r) id
  · rw [if_neg hkh] at hrj ⊢
    exact hr k hk r hrj

/-- The effects play no part. -/
theorem routed_emit (es : List Effect) : Routed A (s.emit es) := hr

end Primitives

/-- `ReadyInstance` moves requests from one queue of an instance to the other. -/
theorem routed_readyInstance {A : List (TransferRequest × Nat)} {s : Master} (hw : WellFormed s)
    (hr : Routed A s) {i : Instance} (hi : i ∈ s.instances) : Routed A (readyInstance s i) := by
  rw [readyInstance_eq]
  refine routed_modify_self hr hw hi _ ⟨rfl, rfl⟩ fun r h => .inl ?_
  simp only [holds, List.nil_append, List.mem_append] at h ⊢
  exact h.symm

/-- Every act keeps `Routed` once what its source asks for is in `A`: zone resolution holds a
request only at a public instance of the map it was asked for, and every other act moves a
request within its instance or drops it. -/
theorem routed_act {A : List (TransferRequest × Nat)} {src : Source}
    {tk dr : Multiset TransferRequest} {s t : Master} (h : Act src tk dr s t)
    (ha : ∀ x ∈ src.asks, x ∈ A) (hw : WellFormed s) (hr : Routed A s) : Routed A t := by
  cases h with
  | launch =>
    show Routed A ((s.addInstance _).emit _)
    refine routed_emit (routed_addInstance hr ?_) _
    rfl
  | enqueue hi _ _ hp has =>
    refine routed_modify_self hr hw hi _ ⟨rfl, rfl⟩ fun r' h' => ?_
    simp only [holds, List.mem_append, List.mem_singleton] at h' ⊢
    rcases h' with (h' | rfl) | h'
    exacts [.inl (.inl h'), .inr ⟨ha _ has, hp⟩, .inl (.inr h')]
  | requestAffirmation hi _ hp has =>
    refine routed_modify_self hr hw hi _ ⟨rfl, rfl⟩ fun r' h' => ?_
    simp only [holds, List.mem_append, List.mem_singleton] at h' ⊢
    rcases h' with h' | h' | rfl
    exacts [.inl (.inl h'), .inl (.inr h'), .inr ⟨ha _ has, hp⟩]
  | removePeer => exact routed_removeInstance hr _
  | registerWorld => exact routed_addInstance hr (by rfl)
  | setSessionKey s k u =>
    obtain ⟨_, he, -⟩ := setSessionKey_frame s k.toNat u
    rw [he]
    exact hr
  | readyInstance hi => exact routed_readyInstance hw hr hi
  | affirmTransfer =>
    refine routed_modify hr _ fun j => ⟨rfl, rfl, fun _ h => ?_⟩
    exact List.mem_append.mpr ((List.mem_append.mp h).imp id List.mem_of_mem_erase)
  | setSysAddr | changePlayers | setShuttingDown =>
    refine routed_modify hr _ ?_
    exact fun _ => ⟨rfl, rfl, fun _ h => h⟩
  | _ => exact hr

theorem routed_acts {A : List (TransferRequest × Nat)} {src : Source}
    {tk dr : Multiset TransferRequest} {s t : Master} (h : Acts src tk dr s t)
    (ha : ∀ x ∈ src.asks, x ∈ A) (hw : WellFormed s) (hr : Routed A s) : Routed A t :=
  (h.preserves (I := fun s => WellFormed s ∧ Routed A s)
    (fun h ⟨hw, hr⟩ => ⟨(h.evolves hw).1, routed_act h ha hw hr⟩) ⟨hw, hr⟩).2

theorem routed_checkAffirmation {A : List (TransferRequest × Nat)} {s : Master}
    (hw : WellFormed s) (hr : Routed A s) (h : Nat) : Routed A (checkAffirmation s h).1 := by
  unfold checkAffirmation
  split
  · exact hr
  · rename_i i hg
    obtain ⟨hi, rfl⟩ := get?_mem hg
    dsimp only
    split
    · unfold redirectPendingRequests
      refine routed_acts (redirect_acts i _ _ fun _ h => h) (fun x hx => ?_) ?_ ?_
      · obtain ⟨r, h, rfl⟩ := List.mem_map.mp hx
        exact (hr i hi r (by simp only [holds, List.mem_append] at h ⊢; exact h.symm)).1
      · refine Affirmation.wellFormed_modify (Affirmation.wellFormed_modify
          (Affirmation.wellFormed_modify hw _ ?_) _ ?_) _ ?_ <;> exact fun _ => rfl
      refine routed_modify (routed_modify (routed_modify hr _ ?_) _ ?_) _ ?_
      · exact fun _ => ⟨rfl, rfl, fun _ h => h⟩
      · exact fun _ => ⟨rfl, rfl, fun _ h => h⟩
      · exact fun _ => ⟨rfl, rfl, fun _ h => nomatch h⟩
    · refine routed_modify hr _ ?_
      exact fun _ => ⟨rfl, rfl, fun _ h => h⟩

theorem routed_startup (A : List (TransferRequest × Nat)) (externalIP : String) (prestart : Bool) :
    Routed A (startup externalIP prestart) := by
  intro i hi r hri
  rw [startup_instances] at hi
  cases prestart <;>
    simp only [ite_true, List.mem_cons, List.not_mem_nil, or_false] at hi
  · cases hi
  · rcases hi with rfl | rfl <;> cases hri

/-- A run of the master from startup, with the packets it dispatched in order. The steps
are those of `Step`. -/
inductive History : Master → List Packet → Prop
  | startup (externalIP : String) (prestart : Bool) : History (startup externalIP prestart) []
  | dispatch {s : Master} {ps : List Packet} (p : Packet) :
      History s ps → History (handlePacket s p) (ps ++ [p])
  | countdown {s : Master} {ps : List Packet} : History s ps → History (countdown s) ps
  | check {s : Master} {ps : List Packet} (h : Nat) :
      History s ps → History (checkAffirmation s h).1 ps
  | reap {s : Master} {ps : List Packet} (h : Nat) : History s ps → History (reapInstance s h) ps
  | shutdownInstances {s : Master} {ps : List Packet} :
      History s ps → History (shutdownInstances s) ps

theorem History.reachable {s : Master} {ps : List Packet} (h : History s ps) : Reachable s := by
  induction h with
  | startup ip prestart => exact .startup ip prestart
  | dispatch p _ ih => exact .step ih (.dispatch _ p)
  | countdown _ ih => exact .step ih (.countdown _)
  | check h _ ih => exact .step ih (.check _ h)
  | reap h _ ih => exact .step ih (.reap _ h)
  | shutdownInstances _ ih => exact .step ih (.shutdownInstances _)

/-- Every reachable state is the end of a run with its packets. -/
theorem Reachable.history {s : Master} (h : Reachable s) : ∃ ps, History s ps := by
  induction h with
  | startup ip prestart => exact ⟨[], .startup ip prestart⟩
  | step _ hst ih =>
    obtain ⟨ps, hh⟩ := ih
    cases hst with
    | dispatch p => exact ⟨_, hh.dispatch p⟩
    | countdown => exact ⟨_, hh.countdown⟩
    | check h => exact ⟨_, hh.check h⟩
    | reap h => exact ⟨_, hh.reap h⟩
    | shutdownInstances => exact ⟨_, hh.shutdownInstances⟩

theorem routed_handlePacket {A : List (TransferRequest × Nat)} {s : Master} (hw : WellFormed s)
    (hr : Routed A s) (p : Packet) :
    Routed (A ++ (p.master.map (asked p.systemAddress)).getD []) (handlePacket s p) := by
  have hn := handleNotification_acts s p.systemAddress p.notification
  have hr' := routed_acts hn (by intro _ h; cases h) hw
    (hr.mono (List.subset_append_left A ((p.master.map (asked p.systemAddress)).getD [])))
  unfold handlePacket
  split
  · rename_i m hm
    refine routed_acts (handleMasterMessage_acts ..) (fun x h => ?_) (hn.evolves hw).1 hr'
    rw [asks_message] at h
    rw [hm]
    exact List.mem_append_right _ h
  · exact hr'

/-- Along every run, every request an instance holds was asked by a dispatched packet for
the instance's map. -/
theorem History.routed {s : Master} {ps : List Packet} (h : History s ps) :
    Routed (askedBy ps) s := by
  induction h with
  | startup ip prestart => exact routed_startup _ ip prestart
  | @dispatch s ps p hh ih =>
    have := routed_handlePacket hh.reachable.wellFormed ih p
    rwa [askedBy, List.flatMap_append, List.flatMap_singleton]
  | countdown _ ih => unfold MasterServer.countdown; split <;> exact ih
  | check h hh ih => exact routed_checkAffirmation hh.reachable.wellFormed ih h
  | reap h _ ih =>
    unfold reapInstance
    repeat' split
    all_goals first | exact routed_removeInstance ih _ | exact ih
  | shutdownInstances _ ih => exact ih

/-- From a `Routed` state, what an `AFFIRM_TRANSFER_RESPONSE` makes the master send is
only appended to its effects, and each `ZONE_TRANSFER_RESPONSE` in it answers a request
asked, for the map the response names, in `A`. -/
theorem affirmTransferResponse_asked {A : List (TransferRequest × Nat)} {s : Master}
    (h : Routed A s) (addr : SysAddr) (requestID : UInt64) :
    ∃ new, (handleMasterMessage s addr (.affirmTransferResponse requestID)).effects =
        s.effects ++ new ∧
      ∀ a rid shift mapID instanceID cloneID ip port,
        Effect.send a (.zoneTransferResponse rid shift mapID instanceID cloneID ip port) ∈ new →
          (⟨rid, shift, a⟩, mapID) ∈ A := by
  simp only [handleMasterMessage]
  split
  · exact ⟨[], (List.append_nil _).symm, fun _ _ _ _ _ _ _ _ h => nomatch h⟩
  · rename_i i hi
    unfold affirmTransfer
    split
    · exact ⟨[], (List.append_nil _).symm, fun _ _ _ _ _ _ _ _ h => nomatch h⟩
    · rename_i r hr
      refine ⟨_, rfl, fun _ _ _ _ _ _ _ _ he => ?_⟩
      cases List.mem_singleton.mp he
      exact (h i (List.mem_of_find?_eq_some hi) r
        (List.mem_append_right _ (List.mem_of_find?_eq_some hr))).1

/-- **Sent to the map it asked for.** Along every run, what an `AFFIRM_TRANSFER_RESPONSE`
makes the master send is only appended to its effects, and each `ZONE_TRANSFER_RESPONSE`
in it goes to a peer that asked, in a `REQUEST_ZONE_TRANSFER` the run dispatched, for the
map the response names, with the response's request id and shift. -/
theorem affirmTransferResponse_routed {s : Master} {ps : List Packet} (h : History s ps)
    (addr : SysAddr) (requestID : UInt64) :
    ∃ new, (handleMasterMessage s addr (.affirmTransferResponse requestID)).effects =
        s.effects ++ new ∧
      ∀ a rid shift mapID instanceID cloneID ip port,
        Effect.send a (.zoneTransferResponse rid shift mapID instanceID cloneID ip port) ∈ new →
          (⟨rid, shift, a⟩, mapID) ∈ askedBy ps :=
  affirmTransferResponse_asked h.routed addr requestID

/-- The affirmation, from the address it registered with, of a request to the prestarted
zone 0. -/
theorem routed_affirmed_request :
    let w : Packet := ⟨⟨2, 2⟩, none, some (.serverInfo 1 0 1 .world "")⟩
    let p : Packet := ⟨⟨1, 1⟩, none, some (.requestZoneTransfer 7 0 0 0)⟩
    let s : Master := handlePacket (handlePacket (startup "" true) w) p
    ∃ new, (handleMasterMessage s ⟨2, 2⟩ (.affirmTransferResponse 7)).effects =
        s.effects ++ new ∧
      ∀ a rid shift mapID instanceID cloneID ip port,
        Effect.send a (.zoneTransferResponse rid shift mapID instanceID cloneID ip port) ∈ new →
          (⟨rid, shift, a⟩, mapID) ∈ askedBy ([] ++ [w] ++ [p]) :=
  affirmTransferResponse_routed (((History.startup "" true).dispatch _).dispatch _) _ _

section Loop

variable {s : Master} {ps : List Packet}

theorem History.dispatchOf (h : History s ps) (p : Option Packet) :
    History (MasterServer.dispatch s p) (ps ++ p.toList) := by
  cases p with
  | none => exact (List.append_nil ps).symm ▸ h
  | some p => exact h.dispatch p

theorem History.affirmationPass (hs : List Nat) (h : History s ps) :
    History (MasterServer.affirmationPass s hs).1 ps := by
  induction hs generalizing s with
  | nil => exact h
  | cons k hs ih => rw [Affirmation.affirmationPass_cons]; exact ih (h.check k)

theorem History.reapPass (hs : List Nat) (h : History s ps) :
    History (MasterServer.reapPass s hs) ps := by
  induction hs generalizing s with
  | nil => exact h
  | cons k hs ih => exact ih (h.reap k)

/-- One iteration of the loop dispatches at most the packet `Receive` returned. -/
theorem History.loopStep {l : Loop} (h : History l.master ps) (p : Option Packet) :
    ∃ ps', History (l.step p).1.master ps' ∧ ps'.Sublist (ps ++ p.toList) := by
  cases hl : l.running with
  | false =>
    rw [Timeout.step_stopped hl]
    exact ⟨ps, h, List.sublist_append_left _ _⟩
  | true =>
    rcases Timeout.step_running hl p with e | ⟨e, -⟩ <;> rw [e]
    · exact ⟨_, (h.dispatchOf p).countdown.affirmationPass _ |>.reapPass _, .refl _⟩
    · exact ⟨_, h.dispatchOf p, .refl _⟩

end Loop

theorem askedBy_subset {ps qs : List Packet} (h : ps.Sublist qs) : askedBy ps ⊆ askedBy qs :=
  fun _ hx =>
    let ⟨p, hp, hx⟩ := List.mem_flatMap.mp hx
    List.mem_flatMap.mpr ⟨p, h.subset hp, hx⟩

/-- The packets the first `t` calls of `Receive` returned. -/
def receivedBy (σ : Nat → Option Packet) (t : Nat) : List Packet := (List.range t).filterMap σ

theorem trace_history (ip : String) (prestart : Bool) (σ : Nat → Option Packet) :
    ∀ t, ∃ ps, History (trace (startup ip prestart) σ t).master ps ∧ ps.Sublist (receivedBy σ t)
  | 0 => ⟨[], .startup ip prestart, .slnil⟩
  | t + 1 => by
    obtain ⟨ps, h, hs⟩ := trace_history ip prestart σ t
    obtain ⟨ps', h', hs'⟩ := h.loopStep (σ t)
    refine ⟨ps', h', hs'.trans ?_⟩
    rw [receivedBy, List.range_succ, List.filterMap_append]
    refine hs.append ?_
    rw [List.filterMap_cons, List.filterMap_nil]
    cases σ t <;> exact .refl _

/-- **The main loop sends players where they asked.** At every iteration of `main`'s loop
from startup, whatever `Receive` returns, each `ZONE_TRANSFER_RESPONSE` that an
`AFFIRM_TRANSFER_RESPONSE` makes the master send goes to a peer that asked, in a
`REQUEST_ZONE_TRANSFER` among the packets `Receive` returned so far, for the map the
response names, with the response's request id and shift. -/
theorem trace_affirmTransferResponse_routed (ip : String) (prestart : Bool)
    (σ : Nat → Option Packet) (t : Nat) (addr : SysAddr) (requestID : UInt64) :
    let s : Master := (trace (startup ip prestart) σ t).master
    ∃ new, (handleMasterMessage s addr (.affirmTransferResponse requestID)).effects =
        s.effects ++ new ∧
      ∀ a rid shift mapID instanceID cloneID ip port,
        Effect.send a (.zoneTransferResponse rid shift mapID instanceID cloneID ip port) ∈ new →
          (⟨rid, shift, a⟩, mapID) ∈ askedBy (receivedBy σ t) := by
  obtain ⟨ps, h, hs⟩ := trace_history ip prestart σ t
  exact affirmTransferResponse_asked (h.routed.mono (askedBy_subset hs)) addr requestID

end MasterServer.Routing
