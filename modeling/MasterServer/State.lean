import MasterServer.SessionMap

/-!
# The master's state

The globals of `MasterServer.cpp` (`activeSessions`, `shouldShutdown`,
`chatServerMasterPeerSysAddr`, the universe-shutdown frame counter), the
instance manager's registry `m_Instances` and external IP, the object-ID
manager's counter, and the list of everything sent or launched so far.
An instance is addressed by its handle, as the code addresses it by pointer.
-/

namespace MasterServer

structure Master where
  instances : List Instance
  nextHandle : Nat
  externalIP : String
  activeSessions : SessionMap
  shouldShutdown : Bool
  chatServerMasterPeerSysAddr : SysAddr
  framesSinceKillUniverseCommand : Nat
  currentPersistentID : Nat
  effects : List Effect

namespace Master

/-- The state `main` enters its loop with, before any prestart. -/
def initial (externalIP : String) : Master where
  instances := []
  nextHandle := 0
  externalIP := externalIP
  activeSessions := .empty
  shouldShutdown := false
  chatServerMasterPeerSysAddr := .unassigned
  framesSinceKillUniverseCommand := 0
  currentPersistentID := 0
  effects := []

/-- Append what a call sends or launches. -/
def emit (s : Master) (es : List Effect) : Master := { s with effects := s.effects ++ es }

/-- The instance a handle points to, while it is registered. -/
def get? (s : Master) (h : Nat) : Option Instance := s.instances.find? (·.handle == h)

/-- Apply a mutator to the instance a handle points to. -/
def modify (s : Master) (h : Nat) (f : Instance → Instance) : Master :=
  { s with instances := s.instances.map fun i => if i.handle = h then f i else i }

/-- `InstanceManager::AddInstance` of a `new Instance`: the object is allocated at
the next handle and pushed onto `m_Instances`. -/
def addInstance (s : Master) (mk : Nat → Instance) : Master :=
  { s with instances := s.instances ++ [mk s.nextHandle], nextHandle := s.nextHandle + 1 }

/-- `InstanceManager::RemoveInstance`: erase the pointer from `m_Instances`. -/
def removeInstance (s : Master) (h : Nat) : Master :=
  { s with instances := s.instances.filter (·.handle ≠ h) }

@[simp] theorem emit_instances (s : Master) (es : List Effect) :
    (s.emit es).instances = s.instances := rfl
@[simp] theorem emit_nextHandle (s : Master) (es : List Effect) :
    (s.emit es).nextHandle = s.nextHandle := rfl
@[simp] theorem emit_effects (s : Master) (es : List Effect) :
    (s.emit es).effects = s.effects ++ es := rfl
@[simp] theorem emit_externalIP (s : Master) (es : List Effect) :
    (s.emit es).externalIP = s.externalIP := rfl
@[simp] theorem emit_nil (s : Master) : s.emit [] = s := by simp [emit]

@[simp] theorem modify_instances (s : Master) (h : Nat) (f : Instance → Instance) :
    (s.modify h f).instances = s.instances.map fun i => if i.handle = h then f i else i := rfl
@[simp] theorem modify_nextHandle (s : Master) (h : Nat) (f : Instance → Instance) :
    (s.modify h f).nextHandle = s.nextHandle := rfl
@[simp] theorem modify_effects (s : Master) (h : Nat) (f : Instance → Instance) :
    (s.modify h f).effects = s.effects := rfl
@[simp] theorem modify_externalIP (s : Master) (h : Nat) (f : Instance → Instance) :
    (s.modify h f).externalIP = s.externalIP := rfl

@[simp] theorem addInstance_instances (s : Master) (mk : Nat → Instance) :
    (s.addInstance mk).instances = s.instances ++ [mk s.nextHandle] := rfl
@[simp] theorem addInstance_nextHandle (s : Master) (mk : Nat → Instance) :
    (s.addInstance mk).nextHandle = s.nextHandle + 1 := rfl
@[simp] theorem addInstance_effects (s : Master) (mk : Nat → Instance) :
    (s.addInstance mk).effects = s.effects := rfl
@[simp] theorem addInstance_externalIP (s : Master) (mk : Nat → Instance) :
    (s.addInstance mk).externalIP = s.externalIP := rfl

@[simp] theorem removeInstance_instances (s : Master) (h : Nat) :
    (s.removeInstance h).instances = s.instances.filter (·.handle ≠ h) := rfl
@[simp] theorem removeInstance_nextHandle (s : Master) (h : Nat) :
    (s.removeInstance h).nextHandle = s.nextHandle := rfl
@[simp] theorem removeInstance_effects (s : Master) (h : Nat) :
    (s.removeInstance h).effects = s.effects := rfl

theorem emit_emit (s : Master) (a b : List Effect) : (s.emit a).emit b = s.emit (a ++ b) := by
  simp [emit, List.append_assoc]

theorem modify_emit (s : Master) (es : List Effect) (h : Nat) (f : Instance → Instance) :
    (s.emit es).modify h f = (s.modify h f).emit es := rfl

/-- Two mutations of one handle are one mutation. -/
theorem modify_modify (s : Master) (h : Nat) (f g : Instance → Instance)
    (hf : ∀ i, (f i).handle = i.handle) : (s.modify h f).modify h g = s.modify h (g ∘ f) := by
  simp only [modify, List.map_map, mk.injEq, and_true]
  exact List.map_congr_left fun i _ => by by_cases hi : i.handle = h <;> simp [hi, hf]

/-- Mutating one handle leaves every other handle's instance alone. -/
theorem get?_modify (s : Master) (h h' : Nat) (f : Instance → Instance)
    (hf : ∀ i, (f i).handle = i.handle) :
    (s.modify h f).get? h' = if h' = h then (s.get? h).map f else s.get? h' := by
  have hp : ((·.handle == h') ∘ fun i : Instance => if i.handle = h then f i else i) =
      (·.handle == h') := by
    funext i; by_cases hi : i.handle = h <;> simp [hi, hf]
  simp only [get?, modify, List.find?_map, hp]
  by_cases he : h' = h
  · subst he
    cases hfind : s.instances.find? (·.handle == h') with
    | none => simp
    | some i =>
      have hi : i.handle = h' := by simpa using List.find?_some hfind
      simp [hi]
  · cases hfind : s.instances.find? (·.handle == h') with
    | none => simp [he]
    | some i =>
      have hi : i.handle = h' := by simpa using List.find?_some hfind
      simp [hi, he]

end Master

end MasterServer
