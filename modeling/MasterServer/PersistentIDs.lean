import MasterServer.Drain

/-!
# Persistent ids

`MSG_MASTER_REQUEST_PERSISTENT_ID` (lines 407-417) answers with `GeneratePersistentID()`,
which advances a 32-bit counter; no other act touches the counter or sends the response.
So along every run the ids handed out are the counter's next values in order, pairwise
distinct from startup as long as at most 2^32 have been handed out.
-/

namespace MasterServer.PersistentIDs

open Master Relation

/-- The object id a `PERSISTENT_ID_RESPONSE` carries. -/
def issues : Effect → Option Nat
  | .send _ (.persistentIDResponse _ objID) => some objID
  | _ => none

/-- The object ids a list of effects hands out, in order. -/
def issued (es : List Effect) : List Nat := es.filterMap issues

/-- The ids `n` requests hand out from the counter value `c`. -/
def nextIDs (c n : Nat) : List Nat := (List.range n).map fun k => (c + k + 1) % 2 ^ 32

@[simp] theorem issued_append (es es' : List Effect) :
    issued (es ++ es') = issued es ++ issued es' :=
  List.filterMap_append _ _ _

theorem nextIDs_add (c n m : Nat) : nextIDs c (n + m) = nextIDs c n ++ nextIDs (c + n) m := by
  simp only [nextIDs, List.range_add, List.map_append, List.map_map]
  congr 2
  funext k
  simp only [Function.comp_apply, Nat.add_assoc]

/-- The ids depend on the counter only modulo 2^32. -/
theorem nextIDs_congr {c c' : Nat} (h : c % 2 ^ 32 = c' % 2 ^ 32) (n : Nat) :
    nextIDs c n = nextIDs c' n :=
  List.map_congr_left fun k _ => by omega

/-- `n` ids in a row are distinct exactly when the counter has not come round. -/
theorem nextIDs_nodup_iff (c n : Nat) : (nextIDs c n).Nodup ↔ n ≤ 2 ^ 32 := by
  constructor
  · intro h
    by_contra hn
    have h0 : 0 ∈ List.range n := List.mem_range.mpr (by omega)
    have h1 : 2 ^ 32 ∈ List.range n := List.mem_range.mpr (by omega)
    have := List.inj_on_of_nodup_map h h0 h1 (by omega)
    omega
  · intro hn
    refine List.Nodup.map_on (fun a ha b hb hab => ?_) (List.nodup_range n)
    have := List.mem_range.mp ha
    have := List.mem_range.mp hb
    omega

/-- `s'` kept the counter and handed out no persistent id. -/
abbrev Silent : Master → Master → Prop :=
  Frame (fun e => issues e = none) (·.currentPersistentID)

theorem Silent.issued_eq {s s' : Master} (h : Silent s s') :
    issued s'.effects = issued s.effects := by
  obtain ⟨es, he, hn⟩ := h.appends
  rw [he, issued_append, show issued es = [] from List.filterMap_eq_nil_iff.mpr hn,
    List.append_nil]

/-- Every act but that of `REQUEST_PERSISTENT_ID` keeps the counter and hands out no id. -/
theorem silent_of_act {src : Source} {tk dr : Multiset TransferRequest} {s t : Master}
    (h : Act src tk dr s t) (hs : ∀ addr rid, src ≠ .message addr (.requestPersistentID rid)) :
    Silent s t := by
  cases h with
  | generatePersistentID => exact (hs _ _ rfl).elim
  | readyInstance =>
    rw [readyInstance_eq]
    exact ⟨⟨_, rfl, fun e he => by obtain ⟨_, -, rfl⟩ := List.mem_map.mp he; rfl⟩, rfl⟩
  | setSessionKey s k u =>
    obtain ⟨es, he, hb⟩ := setSessionKey_frame s k.toNat u
    exact ⟨⟨es, congrArg Master.effects he, fun e h => hb e h ▸ rfl⟩, by rw [he]⟩
  | reply _ _ msg h => exact ⟨.of_single rfl (by cases msg <;> first | rfl | cases h), rfl⟩
  | _ => first | exact ⟨.of_effects_eq rfl, rfl⟩ | exact ⟨.of_single rfl rfl, rfl⟩

theorem silent_of_acts {src : Source} {tk dr : Multiset TransferRequest} {s t : Master}
    (h : Acts src tk dr s t) (hs : ∀ addr rid, src ≠ .message addr (.requestPersistentID rid)) :
    Silent s t :=
  h.lift Frame.refl (·.trans ·) fun h => silent_of_act h hs

/-- Whether a master message asks for a persistent id. -/
def asksID : MasterMessage → Bool
  | .requestPersistentID _ => true
  | _ => false

theorem checkAffirmation_silent (s : Master) (h : Nat) : Silent s (checkAffirmation s h).1 := by
  unfold checkAffirmation redirectPendingRequests
  split
  · exact .refl s
  · dsimp only
    split
    · refine Frame.trans ?_ (silent_of_acts (redirect_acts _ _ _ fun _ h => h) nofun)
      exact ⟨.of_single rfl rfl, rfl⟩
    · exact ⟨.of_effects_eq rfl, rfl⟩

/-- `s'` handed out the next `n` ids of the counter of `s`, and its counter moved on by
`n`. -/
def Advances (n : Nat) (s s' : Master) : Prop :=
  issued s'.effects = issued s.effects ++ nextIDs s.currentPersistentID n ∧
    s'.currentPersistentID % 2 ^ 32 = (s.currentPersistentID + n) % 2 ^ 32

theorem Silent.advances {s s' : Master} (h : Silent s s') : Advances 0 s s' :=
  ⟨by rw [h.issued_eq]; exact (List.append_nil _).symm, by rw [h.keeps]; rfl⟩

theorem Advances.trans {n m : Nat} {s₁ s₂ s₃ : Master} (h₁ : Advances n s₁ s₂)
    (h₂ : Advances m s₂ s₃) : Advances (n + m) s₁ s₃ := by
  refine ⟨?_, by have := h₁.2; have := h₂.2; omega⟩
  rw [h₂.1, h₁.1, nextIDs_add, List.append_assoc, nextIDs_congr h₁.2 m]

/-- `REQUEST_PERSISTENT_ID` hands out the counter's next value. -/
theorem requestPersistentID_advances (s : Master) (addr : SysAddr) (requestID : UInt64) :
    Advances 1 s (handleMasterMessage s addr (.requestPersistentID requestID)) :=
  ⟨by simp [handleMasterMessage, generatePersistentID, issued, issues]; rfl, Nat.mod_mod _ _⟩

theorem handlePacket_advances (s : Master) (p : Packet) :
    ∃ n, Advances n s (handlePacket s p) := by
  have hn := silent_of_acts (handleNotification_acts s p.systemAddress p.notification) nofun
  unfold handlePacket
  split
  · rename_i m _
    cases hm : asksID m
    · refine ⟨0, Silent.advances (hn.trans (silent_of_acts (handleMasterMessage_acts ..) ?_))⟩
      rintro _ rid ⟨⟩
      cases hm
    · cases m <;> cases hm
      exact ⟨0 + 1, hn.advances.trans (requestPersistentID_advances ..)⟩
  · exact ⟨0, hn.advances⟩

theorem advances_of_step {s s' : Master} (h : Step s s') : ∃ n, Advances n s s' := by
  cases h with
  | dispatch p => exact handlePacket_advances s p
  | countdown =>
    exact ⟨0, Silent.advances (by unfold countdown; split <;> exact ⟨.of_effects_eq rfl, rfl⟩)⟩
  | check h => exact ⟨0, (checkAffirmation_silent s h).advances⟩
  | reap h =>
    refine ⟨0, Silent.advances ?_⟩
    unfold reapInstance
    repeat' split
    all_goals exact ⟨.of_effects_eq rfl, rfl⟩
  | shutdownInstances =>
    exact ⟨0, Silent.advances ⟨.of_emit _ fun _ he => by
      obtain ⟨_, -, rfl⟩ := List.mem_map.mp he; rfl, rfl⟩⟩

theorem steps_advances {s₀ s : Master} (h : ReflTransGen Step s₀ s) : ∃ n, Advances n s₀ s := by
  induction h with
  | refl => exact ⟨0, Silent.advances (Frame.refl _)⟩
  | tail _ hst ih =>
    obtain ⟨n, hn⟩ := ih
    obtain ⟨m, hm⟩ := advances_of_step hst
    exact ⟨n + m, hn.trans hm⟩

/-- **Persistent ids are handed out in order.** Along every run of the master, from any
state, the `PERSISTENT_ID_RESPONSE`s it sends carry the next values of the 32-bit
counter, one after another, and the counter has moved on by as many. -/
theorem steps_issued {s₀ s : Master} (h : ReflTransGen Step s₀ s) :
    ∃ n, issued s.effects = issued s₀.effects ++ nextIDs s₀.currentPersistentID n ∧
      s.currentPersistentID % 2 ^ 32 = (s₀.currentPersistentID + n) % 2 ^ 32 :=
  steps_advances h

/-- A run of one `REQUEST_PERSISTENT_ID` and one `REQUEST_ZONE_TRANSFER` after startup. -/
theorem steps_issued_two_requests :
    let s₀ : Master := startup "" true
    let s₁ : Master := handlePacket s₀ ⟨⟨1, 1⟩, none, some (.requestPersistentID 7)⟩
    let s : Master := handlePacket s₁ ⟨⟨1, 1⟩, none, some (.requestZoneTransfer 8 0 0 0)⟩
    ∃ n, issued s.effects = issued s₀.effects ++ nextIDs s₀.currentPersistentID n ∧
      s.currentPersistentID % 2 ^ 32 = (s₀.currentPersistentID + n) % 2 ^ 32 :=
  steps_issued (.tail (.single (.dispatch _ _)) (.dispatch _ _))

/-- **No persistent id is handed out twice before the counter wraps.** In every reachable
state, the ids of the `PERSISTENT_ID_RESPONSE`s sent so far are pairwise distinct exactly
when at most 2^32 have been sent. -/
theorem reachable_issued_nodup {s : Master} (hs : Reachable s) :
    (issued s.effects).Nodup ↔ (issued s.effects).length ≤ 2 ^ 32 := by
  obtain ⟨ip, prestart, hr⟩ : ∃ ip prestart, ReflTransGen Step (startup ip prestart) s := by
    induction hs with
    | startup ip prestart => exact ⟨ip, prestart, .refl⟩
    | step _ hst ih => obtain ⟨ip, prestart, hr⟩ := ih; exact ⟨ip, prestart, hr.tail hst⟩
  obtain ⟨n, hn, -⟩ := steps_advances hr
  have h0 : issued (startup ip prestart).effects = [] ∧
      (startup ip prestart).currentPersistentID = 0 := by
    cases prestart <;> exact ⟨rfl, rfl⟩
  rw [hn, h0.1, h0.2, List.nil_append, nextIDs_nodup_iff, nextIDs, List.length_map,
    List.length_range]

/-- The state after one `REQUEST_PERSISTENT_ID`. -/
theorem issued_nodup_after_request :
    let s : Master :=
      handlePacket (startup "" false) ⟨⟨1, 1⟩, none, some (.requestPersistentID 7)⟩
    (issued s.effects).Nodup ↔ (issued s.effects).length ≤ 2 ^ 32 :=
  reachable_issued_nodup (.step (.startup "" false) (.dispatch _ _))

end MasterServer.PersistentIDs
