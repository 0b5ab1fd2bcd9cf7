import Mathlib.Data.Multiset.Basic
import MasterServer.ControlLoop

/-!
# What handling a packet can do

Each piece of work of `HandlePacket`, and zone resolution when the timeout pass redirects
a wedged instance's requests, is an `Act`: one operation with the lookups and guards the
code passed before it, indexed by the requests it takes in and drops. The handler's cases
are walked once, in `handleMasterMessage_acts`; every invariant is proved once per act.
-/

namespace MasterServer

open Master

/-- Where an act comes from: the transport blocks for a peer, the `switch` on a master
message from a peer, or the timeout pass redirecting the requests an instance held. -/
inductive Source where
  | event (addr : SysAddr)
  | message (addr : SysAddr) (m : MasterMessage)
  | redirect (i : Instance)

/-- The cases of `HandlePacket` that reach `LaunchInstance`: zone resolution and private
zones. -/
def launchesWorld : MasterMessage → Bool
  | .requestZoneTransfer .. | .prepZone _ | .createPrivateZone .. => true
  | _ => false

/-- The cases of `HandlePacket` that can add to the registry. -/
def registers (m : MasterMessage) : Bool :=
  launchesWorld m || m matches .serverInfo ..

/-- Whether a source may launch a world. -/
def Source.launches : Source → Bool
  | .message _ m => launchesWorld m
  | .redirect _ => true
  | .event _ => false

/-- The requests a source hands to zone resolution, each with the map it resolves: that of
`REQUEST_ZONE_TRANSFER`, for its zone narrowed to an `LWOMAPID`, or those a wedged instance
held, for its own map. -/
def Source.asks : Source → List (TransferRequest × Nat)
  | .message addr (.requestZoneTransfer requestID mythranShift zoneID _) =>
    [(⟨requestID, mythranShift != 0, addr⟩, zoneID.toNat % 2 ^ 16)]
  | .redirect i => (i.pendingAffirmations ++ i.pendingRequests).map (·, i.mapID)
  | _ => []

/-- The requests an instance holds: queued until it is ready, then awaiting affirmation. -/
def queued (i : Instance) : Multiset TransferRequest :=
  (i.pendingRequests ++ i.pendingAffirmations : List TransferRequest)

/-- The transfer requests a master message hands the master, as the handler builds them
from the sender, the request id and the shift read as a `bool`. -/
def requests (addr : SysAddr) : MasterMessage → List TransferRequest
  | .requestZoneTransfer requestID mythranShift _ _ => [⟨requestID, mythranShift != 0, addr⟩]
  | .requestPrivateZone requestID mythranShift _ => [⟨requestID, mythranShift != 0, addr⟩]
  | _ => []

/-- A private-zone request whose password names no instance: the handler returns without
an answer (lines 631-633). -/
def refused (s : Master) (addr : SysAddr) : MasterMessage → Multiset TransferRequest
  | .requestPrivateZone requestID mythranShift password =>
    if (findPrivateInstance s (cStr password)).isSome then 0
    else {⟨requestID, mythranShift != 0, addr⟩}
  | _ => 0

/-- The requests held by the instance of a peer that a transport event removes. -/
def notified (s : Master) (addr : SysAddr) : Option Notification → Multiset TransferRequest
  | some _ => ((getInstanceBySysAddr s addr).map queued).getD 0
  | none => 0

/-- The answers a case sends that carry no transfer, id or launch: a session key, or the
list of instances. -/
def OutMessage.isReply : OutMessage → Bool
  | .sessionKeyResponse .. | .respondInstances .. => true
  | _ => false

/-- `SET_SESSION_KEY` changes only the session registry, and sends at most the alert of a
displaced session. -/
theorem setSessionKey_frame (s : Master) (sessionKey : Nat) (username : String) :
    ∃ es, setSessionKey s sessionKey username =
        { s with activeSessions := (setSessionKey s sessionKey username).activeSessions,
                 effects := s.effects ++ es } ∧
      ∀ e ∈ es, e = .broadcast (.newSessionAlert sessionKey username) := by
  unfold setSessionKey displaceSession
  split
  · exact ⟨_, rfl, List.forall_mem_singleton.mpr rfl⟩
  · exact ⟨[], by simp, nofun⟩

/-- One act of the master, from a source, taking in the requests `tk` and dropping `dr`. -/
inductive Act : Source → Multiset TransferRequest → Multiset TransferRequest → Master → Master →
    Prop
  | launch {src : Source} (s : Master) (mapID cloneID : Nat) (password : Option (List UInt8))
      (hl : src.launches = true) : Act src 0 0 s (launchInstance s mapID cloneID password).1
  | enqueue {src : Source} {s : Master} {i : Instance} {r : TransferRequest}
      (hi : i ∈ s.instances) (hr : i.ready = false) (hs : i.shuttingDown = false)
      (hp : i.privatePassword = none) (ha : (r, i.mapID) ∈ src.asks) :
      Act src {r} 0 s
        (s.modify i.handle fun j => { j with pendingRequests := j.pendingRequests ++ [r] })
  | requestAffirmation {src : Source} {s : Master} {i : Instance} {r : TransferRequest}
      (hi : i ∈ s.instances) (hs : i.shuttingDown = false) (hp : i.privatePassword = none)
      (ha : (r, i.mapID) ∈ src.asks) : Act src {r} 0 s (requestAffirmation s i r)
  | removePeer {addr : SysAddr} {s : Master} {i : Instance}
      (hi : getInstanceBySysAddr s addr = some i) :
      Act (.event addr) 0 (queued i) s (s.removeInstance i.handle)
  | restartChatServer {addr : SysAddr} {s : Master} (ha : addr = s.chatServerMasterPeerSysAddr)
      (hs : s.shouldShutdown = false) : Act (.event addr) 0 0 s (s.emit [.startChatServer])
  | generatePersistentID {addr : SysAddr} (s : Master) (requestID : UInt64) :
      Act (.message addr (.requestPersistentID requestID)) 0 0 s
        ((generatePersistentID s).1.emit
          [.send addr (.persistentIDResponse requestID (generatePersistentID s).2)])
  | registerWorld {addr : SysAddr} (s : Master) (port zoneID instanceID : UInt32) (ip : String)
      (hp : isPortInUse s port.toNat = false) :
      Act (.message addr (.serverInfo port zoneID instanceID .world ip)) 0 0 s
        (s.addInstance fun h =>
          { newInstance h ip port.toNat (zoneID.toNat % 2 ^ 16) (instanceID.toNat % 2 ^ 16) 0 12 12 with
            sysAddr := addr })
  | setSysAddr {addr : SysAddr} {port zoneID instanceID : UInt32} {t : ServerType} {ip : String}
      {s : Master} {i : Instance} (hi : i ∈ s.instances) :
      Act (.message addr (.serverInfo port zoneID instanceID t ip)) 0 0 s
        (s.modify i.handle fun j => { j with sysAddr := addr })
  | rememberChatServer {addr : SysAddr} {port zoneID instanceID : UInt32} {ip : String}
      (s : Master) :
      Act (.message addr (.serverInfo port zoneID instanceID .chat ip)) 0 0 s
        { s with chatServerMasterPeerSysAddr := addr }
  | setSessionKey {addr : SysAddr} (s : Master) (sessionKey : UInt32) (username : String) :
      Act (.message addr (.setSessionKey sessionKey username)) 0 0 s
        (setSessionKey s sessionKey.toNat username)
  | changePlayers {addr : SysAddr} {m : MasterMessage} {s : Master} {i : Instance}
      (f : Nat → Nat) (hi : i ∈ s.instances) :
      Act (.message addr m) 0 0 s (s.modify i.handle fun j => { j with players := f j.players })
  | readyInstance {addr : SysAddr} {zoneID instanceID : UInt16} {s : Master} {i : Instance}
      (hi : i ∈ s.instances) :
      Act (.message addr (.worldReady zoneID instanceID)) 0 0 s (readyInstance s i)
  | affirmTransfer {addr : SysAddr} {requestID : UInt64} {s : Master} {i : Instance}
      {r : TransferRequest} (hi : i ∈ s.instances) (hr : r ∈ i.pendingAffirmations) :
      Act (.message addr (.affirmTransferResponse requestID)) 0 0 s
        ((s.modify i.handle fun j => { j with pendingAffirmations := j.pendingAffirmations.erase r }).emit
          [.send r.requester (.zoneTransferResponse r.requestID r.mythranShift i.mapID i.instanceID
            i.cloneID i.ip i.port)])
  | setShuttingDown {addr : SysAddr} {s : Master} {i : Instance} (hi : i ∈ s.instances) :
      Act (.message addr .shutdownResponse) 0 0 s
        (s.modify i.handle fun j => { j with shuttingDown := true })
  | shutdownUniverse {addr : SysAddr} (s : Master) :
      Act (.message addr .shutdownUniverse) 0 0 s { s with shouldShutdown := true }
  | answerPrivateZone {addr : SysAddr} {requestID : UInt64} {mythranShift : UInt8}
      {password : List UInt8} {s : Master} {i : Instance}
      (hi : findPrivateInstance s (cStr password) = some i) :
      Act (.message addr (.requestPrivateZone requestID mythranShift password))
        {⟨requestID, mythranShift != 0, addr⟩} 0 s
        (s.emit [.send addr (.zoneTransferResponse requestID (mythranShift != 0) i.mapID i.instanceID
          i.cloneID i.ip i.port)])
  | refusePrivateZone {addr : SysAddr} {requestID : UInt64} {mythranShift : UInt8}
      {password : List UInt8} {s : Master} (hi : findPrivateInstance s (cStr password) = none) :
      Act (.message addr (.requestPrivateZone requestID mythranShift password))
        {⟨requestID, mythranShift != 0, addr⟩} {⟨requestID, mythranShift != 0, addr⟩} s s
  | shutdownInstance {addr : SysAddr} {zoneID : UInt32} {instanceID : UInt16} {s : Master}
      {i : Instance} (hi : i ∈ s.instances) :
      Act (.message addr (.shutdownInstance zoneID instanceID)) 0 0 s (s.emit [i.shutdown])
  | reply {addr : SysAddr} {m : MasterMessage} (s : Master) (a : SysAddr) (msg : OutMessage)
      (h : msg.isReply = true) : Act (.message addr m) 0 0 s (s.emit [.send a msg])
  | nullDereference {addr : SysAddr} {objectID : UInt64} {zoneID : Option UInt16}
      {respondingZoneID respondingInstanceID : UInt16} {s : Master}
      (hf : findInstance s respondingZoneID.toNat respondingInstanceID.toNat = none) :
      Act (.message addr (.getInstances objectID zoneID respondingZoneID respondingInstanceID)) 0 0 s
        (s.emit [.nullDereference])

/-- A chain of acts of one source, with the requests they take in and drop. -/
inductive Acts (src : Source) :
    Multiset TransferRequest → Multiset TransferRequest → Master → Master → Prop
  | refl (s : Master) : Acts src 0 0 s s
  | tail {tk dr tk' dr' : Multiset TransferRequest} {s t u : Master} :
      Acts src tk dr s t → Act src tk' dr' t u → Acts src (tk + tk') (dr + dr') s u

namespace Acts

variable {src : Source} {tk dr tk' dr' : Multiset TransferRequest} {s t u : Master}

theorem single (h : Act src tk dr s t) : Acts src tk dr s t := by
  simpa using tail (refl s) h

theorem trans (h₁ : Acts src tk dr s t) (h₂ : Acts src tk' dr' t u) :
    Acts src (tk + tk') (dr + dr') s u := by
  induction h₂ with
  | refl => simpa using h₁
  | tail _ ha ih => simpa [add_assoc] using (ih h₁).tail ha

/-- A reflexive and transitive relation that every act satisfies holds along every chain. -/
theorem lift {R : Master → Master → Prop} (hr : ∀ s, R s s)
    (ht : ∀ {a b c}, R a b → R b c → R a c)
    (ha : ∀ {tk dr s t}, Act src tk dr s t → R s t) (h : Acts src tk dr s t) : R s t := by
  induction h with
  | refl s => exact hr s
  | tail _ h ih => exact ht ih (ha h)

/-- A property that every act keeps holds at the end of every chain. -/
theorem preserves {I : Master → Prop} (ha : ∀ {tk dr s t}, Act src tk dr s t → I s → I t)
    (h : Acts src tk dr s t) : I s → I t :=
  h.lift (R := fun s t => I s → I t) (fun _ => id) (fun h₁ h₂ => h₂ ∘ h₁) ha

end Acts

/-- A reflexive and transitive relation that every step of a fold satisfies holds across
the fold. -/
theorem foldl_rel {α : Type} {R : Master → Master → Prop} (hr : ∀ s, R s s)
    (ht : ∀ {a b c}, R a b → R b c → R a c) (f : Master → α → Master)
    (hf : ∀ s a, R s (f s a)) : ∀ (l : List α) (s : Master), R s (l.foldl f s)
  | [], s => hr s
  | a :: l, s => ht (hf s a) (foldl_rel hr ht f hf l (f s a))

/-- `s'` extends the effects of `s` by effects satisfying `P`. -/
def Appends (P : Effect → Prop) (s s' : Master) : Prop :=
  ∃ es, s'.effects = s.effects ++ es ∧ ∀ e ∈ es, P e

namespace Appends

variable {P Q : Effect → Prop} {s s' s₁ s₂ s₃ : Master}

theorem of_effects_eq (h : s'.effects = s.effects) : Appends P s s' :=
  ⟨[], by simpa using h, by simp⟩

theorem refl (s : Master) : Appends P s s := of_effects_eq rfl

theorem trans (h₁ : Appends P s₁ s₂) (h₂ : Appends P s₂ s₃) : Appends P s₁ s₃ := by
  obtain ⟨a, ha, hpa⟩ := h₁
  obtain ⟨b, hb, hpb⟩ := h₂
  exact ⟨a ++ b, by rw [hb, ha, List.append_assoc],
    fun e he => (List.mem_append.mp he).elim (hpa e) (hpb e)⟩

theorem mono (hPQ : ∀ e, P e → Q e) (h : Appends P s s') : Appends Q s s' :=
  let ⟨es, he, hp⟩ := h
  ⟨es, he, fun e h => hPQ e (hp e h)⟩

theorem of_emit (s : Master) {es : List Effect} (h : ∀ e ∈ es, P e) : Appends P s (s.emit es) :=
  ⟨es, rfl, h⟩

theorem of_single {e : Effect} (he : s'.effects = s.effects ++ [e]) (h : P e) : Appends P s s' :=
  ⟨[e], he, List.forall_mem_singleton.mpr h⟩

theorem mem (h : Appends P s s') {e : Effect} (he : e ∈ s.effects) : e ∈ s'.effects :=
  let ⟨_, hs, _⟩ := h
  hs ▸ List.mem_append_left _ he

end Appends

/-- `s'` appends only effects satisfying `P` and agrees with `s` on what `g` observes. -/
structure Frame {α : Type} (P : Effect → Prop) (g : Master → α) (s s' : Master) : Prop where
  appends : Appends P s s'
  keeps : g s' = g s

namespace Frame

variable {α : Type} {P Q : Effect → Prop} {g : Master → α} {s s' s₁ s₂ s₃ : Master}

theorem refl (s : Master) : Frame P g s s := ⟨.refl s, rfl⟩

theorem trans (h₁ : Frame P g s₁ s₂) (h₂ : Frame P g s₂ s₃) : Frame P g s₁ s₃ :=
  ⟨h₁.1.trans h₂.1, h₂.2.trans h₁.2⟩

theorem mono (hPQ : ∀ e, P e → Q e) (h : Frame P g s s') : Frame Q g s s' :=
  ⟨h.1.mono hPQ, h.2⟩

/-- A frame holds along every chain of acts that each keep it; what an act may append can
depend on what `g` observes, which the chain keeps. -/
theorem of_acts {src : Source} {tk dr : Multiset TransferRequest} {P : α → Effect → Prop}
    (ha : ∀ {tk dr s t}, Act src tk dr s t → Frame (P (g s)) g s t) (h : Acts src tk dr s s') :
    Frame (P (g s)) g s s' :=
  h.lift (R := fun s t => Frame (P (g s)) g s t) (fun s => refl s) (fun h₁ h₂ => h₁.trans (h₁.keeps ▸ h₂))
    ha

end Frame

theorem launchInstance_mem (s : Master) (mapID cloneID : Nat) (pw : Option (List UInt8)) :
    (launchInstance s mapID cloneID pw).2 ∈ (launchInstance s mapID cloneID pw).1.instances := by
  simp [launchInstance]

/-- `GetInstance` either finds an instance that serves the map or launches one. -/
theorem getInstance_cases (s : Master) (mapID cloneID : Nat) :
    (∃ i ∈ s.instances, i.serves mapID = true ∧ getInstance s mapID cloneID = (s, i)) ∨
      getInstance s mapID cloneID = launchInstance s mapID cloneID none := by
  unfold getInstance
  cases h : s.instances.find? (Instance.serves mapID) with
  | some i => exact .inl ⟨i, List.mem_of_find?_eq_some h, List.find?_some h, rfl⟩
  | none => exact .inr rfl

theorem getInstance_mem (s : Master) (mapID cloneID : Nat) :
    (getInstance s mapID cloneID).2 ∈ (getInstance s mapID cloneID).1.instances := by
  rcases getInstance_cases s mapID cloneID with ⟨i, hi, -, h⟩ | h <;> rw [h]
  exacts [hi, launchInstance_mem ..]

/-- Zone resolution returns a public instance of the map it was given that is not shutting
down. -/
theorem getInstance_serves (s : Master) (mapID cloneID : Nat) :
    (getInstance s mapID cloneID).2.shuttingDown = false ∧
      (getInstance s mapID cloneID).2.privatePassword = none ∧
      (getInstance s mapID cloneID).2.mapID = mapID := by
  rcases getInstance_cases s mapID cloneID with ⟨i, -, hs, h⟩ | h <;> rw [h]
  · simp only [Instance.serves, Bool.and_eq_true, Bool.not_eq_true', Option.isNone_iff_eq_none,
      beq_iff_eq] at hs
    exact ⟨hs.1.1.1, hs.1.1.2, hs.1.2⟩
  · exact ⟨rfl, rfl, rfl⟩

theorem getInstance_acts {src : Source} (s : Master) (mapID cloneID : Nat)
    (hl : src.launches = true) : Acts src 0 0 s (getInstance s mapID cloneID).1 := by
  rcases getInstance_cases s mapID cloneID with ⟨i, -, -, h⟩ | h <;> rw [h]
  exacts [.refl s, .single (.launch s mapID cloneID none hl)]

/-- Zone resolution of a request a source asks for: a launch if no instance serves the map,
then the request queued or sent for affirmation. -/
theorem requestZoneTransfer_acts {src : Source} (s : Master) (mapID cloneID : Nat)
    (r : TransferRequest) (hl : src.launches = true) (ha : (r, mapID) ∈ src.asks) :
    Acts src {r} 0 s (requestZoneTransfer s mapID cloneID r) := by
  have hg := getInstance_acts s mapID cloneID hl
  have hm := getInstance_mem s mapID cloneID
  obtain ⟨hs, hp, hmap⟩ := getInstance_serves s mapID cloneID
  unfold requestZoneTransfer
  generalize getInstance s mapID cloneID = q at hg hm hs hp hmap
  obtain ⟨s', i⟩ := q
  dsimp only at hg hm hs hp hmap ⊢
  subst hmap
  split
  · simpa using hg.tail (.enqueue hm (by simpa using ‹(!i.ready) = true›) hs hp ha)
  · simpa using hg.tail (.requestAffirmation hm hs hp ha)

/-- The timeout pass resolves again, for the same map, requests the wedged instance held. -/
theorem redirect_acts (i : Instance) :
    ∀ (rs : List TransferRequest) (s : Master),
      (∀ r ∈ rs, r ∈ i.pendingAffirmations ++ i.pendingRequests) →
        Acts (.redirect i) rs 0 s (rs.foldl (fun s r => requestZoneTransfer s i.mapID i.cloneID r) s)
  | [], s, _ => .refl s
  | r :: rs, s, h => by
    have h₁ : Acts (.redirect i) {r} 0 s (requestZoneTransfer s i.mapID i.cloneID r) :=
      requestZoneTransfer_acts s i.mapID i.cloneID r rfl
        (List.mem_map_of_mem (·, i.mapID) (h r (List.mem_cons_self r rs)))
    have h₂ := redirect_acts i rs (requestZoneTransfer s i.mapID i.cloneID r) fun r' hr' =>
      h r' (List.mem_cons_of_mem r hr')
    simpa [← Multiset.singleton_add] using h₁.trans h₂

/-- The transport blocks: the peer's instance removed, then the chat server restarted. -/
theorem handleNotification_acts (s : Master) (addr : SysAddr) (n : Option Notification) :
    Acts (.event addr) 0 (notified s addr n) s (handleNotification s addr n) := by
  have hr : Acts (.event addr) 0 (((getInstanceBySysAddr s addr).map queued).getD 0) s
      (removePeerInstance s addr) := by
    unfold removePeerInstance
    split
    · rename_i i hi; rw [hi]; exact .single (.removePeer hi)
    · rename_i hi; rw [hi]; exact .refl s
  have hd : Acts (.event addr) 0 (((getInstanceBySysAddr s addr).map queued).getD 0) s
      (dropPeer s addr) := by
    unfold dropPeer restartChatServer
    split
    · rename_i h; simpa using hr.tail (.restartChatServer h.1 h.2)
    · exact hr
  rcases n with _ | _ | _
  exacts [.refl s, hd, hd]

theorem registerServer_acts (s : Master) (addr : SysAddr) (port zoneID instanceID : UInt32)
    (t : ServerType) (ip : String) :
    Acts (.message addr (.serverInfo port zoneID instanceID t ip)) 0 0 s
      (registerServer s addr port.toNat zoneID.toNat instanceID.toNat t ip) := by
  unfold registerServer
  split
  · rename_i h
    obtain ⟨rfl, hp⟩ := h
    exact .single (.registerWorld s port zoneID instanceID ip hp)
  · split
    · exact .single (.setSysAddr (List.mem_of_find?_eq_some ‹_›))
    · exact .refl s

/-- **The one walk over the `switch`.** Every case of `HandlePacket` is a chain of acts from
its message, taking in the requests the message carries and dropping those it refuses. -/
theorem handleMasterMessage_acts (s : Master) (addr : SysAddr) (m : MasterMessage) :
    Acts (.message addr m) (requests addr m) (refused s addr m) s (handleMasterMessage s addr m) := by
  cases m with
  | requestPersistentID requestID => exact .single (.generatePersistentID s requestID)
  | requestZoneTransfer requestID mythranShift zoneID zoneClone =>
    have h : Acts (.message addr (.requestZoneTransfer requestID mythranShift zoneID zoneClone))
        {⟨requestID, mythranShift != 0, addr⟩} 0 s
        (requestZoneTransfer s (zoneID.toNat % 2 ^ 16) zoneClone.toNat ⟨requestID, mythranShift != 0, addr⟩) :=
      requestZoneTransfer_acts s _ _ _ rfl (List.mem_singleton_self _)
    simpa [requests, refused] using h
  | serverInfo port zoneID instanceID t ip =>
    have h := registerServer_acts s addr port zoneID instanceID t ip
    simp only [handleMasterMessage, serverInfo, rememberChatServer, requests, refused, Multiset.coe_nil]
    split
    · subst t; simpa using h.tail (.rememberChatServer _)
    · exact h
  | setSessionKey sessionKey username => exact .single (.setSessionKey s sessionKey username)
  | requestSessionKey username =>
    simp only [handleMasterMessage, requestSessionKey, requests, refused, Multiset.coe_nil]
    split
    exacts [.single (.reply s _ _ rfl), .refl s]
  | playerAdded =>
    simp only [handleMasterMessage, changePlayers, requests, refused, Multiset.coe_nil]
    split
    exacts [.single (.changePlayers (· + 1) (List.mem_of_find?_eq_some ‹_›)), .refl s]
  | playerRemoved =>
    simp only [handleMasterMessage, changePlayers, requests, refused, Multiset.coe_nil]
    split
    exacts [.single (.changePlayers (· - 1) (List.mem_of_find?_eq_some ‹_›)), .refl s]
  | createPrivateZone mapId cloneId password => exact .single (.launch s _ _ _ rfl)
  | requestPrivateZone requestID mythranShift password =>
    cases h : findPrivateInstance s (cStr password) with
    | none => simpa [handleMasterMessage, refused, requests, h] using Acts.single (.refusePrivateZone h)
    | some i => simpa [handleMasterMessage, refused, requests, h] using Acts.single (.answerPrivateZone h)
  | worldReady =>
    simp only [handleMasterMessage, requests, refused, Multiset.coe_nil]
    split
    exacts [.refl s, .single (.readyInstance (List.mem_of_find?_eq_some ‹_›))]
  | prepZone zoneID => exact getInstance_acts s _ _ rfl
  | affirmTransferResponse requestID =>
    simp only [handleMasterMessage, affirmTransfer, requests, refused, Multiset.coe_nil]
    split
    · exact .refl s
    · split
      · exact .refl s
      · exact .single (.affirmTransfer (List.mem_of_find?_eq_some ‹_›)
          (List.mem_of_find?_eq_some ‹_›))
  | shutdownResponse =>
    simp only [handleMasterMessage, requests, refused, Multiset.coe_nil]
    split
    exacts [.refl s, .single (.setShuttingDown (List.mem_of_find?_eq_some ‹_›))]
  | shutdownUniverse => exact .single (.shutdownUniverse s)
  | shutdownInstance =>
    simp only [handleMasterMessage, requests, refused, Multiset.coe_nil]
    split
    exacts [.refl s, .single (.shutdownInstance (List.mem_of_find?_eq_some ‹_›))]
  | getInstances =>
    simp only [handleMasterMessage, getInstances, requests, refused, Multiset.coe_nil]
    split
    exacts [.single (.nullDereference ‹_›), .single (.reply s _ _ rfl)]
  | unknown => exact .refl s

/-- A property every act keeps is kept by handling a packet. -/
theorem handlePacket_preserves {I : Master → Prop}
    (ha : ∀ {src tk dr s t}, Act src tk dr s t → I s → I t) {s : Master} (hs : I s) (p : Packet) :
    I (handlePacket s p) := by
  have hn := (handleNotification_acts s p.systemAddress p.notification).preserves ha hs
  unfold handlePacket
  split
  exacts [(handleMasterMessage_acts ..).preserves ha hn, hn]

end MasterServer
