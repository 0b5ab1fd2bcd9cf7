import MasterServer.Globals

/-!
# Sessions

`SET_SESSION_KEY` (lines 503-531) displaces the user's first session, broadcasting
`NEW_SESSION_ALERT`, and inserts the new key; `REQUEST_SESSION_KEY` (lines 534-549)
answers with the user's first session. Along every run no username is stored
twice, so that answer is the user's one session. `std::map::insert` keeps what a
key already holds: a key bound to another user stays so, and the new user is left
without a session.
-/

namespace MasterServer.Sessions

open Master

/-- No username is stored twice: each has at most one session key. -/
def UniqueUsers (m : SessionMap) : Prop := m.usernames.Nodup

theorem UniqueUsers.eq_of_username_eq {m : SessionMap} (hu : UniqueUsers m) {a b : Nat × String}
    (ha : a ∈ m.entries) (hb : b ∈ m.entries) (h : a.2 = b.2) : a = b :=
  List.inj_on_of_nodup_map hu ha hb h

/-- On a map with unique usernames, displacing `u` removes exactly the entries of `u`,
and the alert goes out iff there was one. -/
theorem displaceSession_spec (s : Master) (k : Nat) (u : String)
    (hu : UniqueUsers s.activeSessions) :
    (displaceSession s k u).activeSessions.entries =
        s.activeSessions.entries.filter (·.2 ≠ u) ∧
      (displaceSession s k u).effects = s.effects ++
        if ∃ e ∈ s.activeSessions.entries, e.2 = u then [.broadcast (.newSessionAlert k u)]
        else [] := by
  unfold displaceSession
  cases h : s.activeSessions.entries.find? (·.2 == u) with
  | none =>
    have hn : ∀ e ∈ s.activeSessions.entries, e.2 ≠ u := by
      simpa using List.find?_eq_none.mp h
    have hx : ¬∃ e ∈ s.activeSessions.entries, e.2 = u := fun ⟨e, he, h⟩ => hn e he h
    exact ⟨(List.filter_eq_self.mpr fun e he => by simpa using hn e he).symm, by simp [hx]⟩
  | some e =>
    have he := List.mem_of_find?_eq_some h
    have heu : e.2 = u := by simpa using List.find?_some h
    refine ⟨List.filter_congr fun x hx => ?_, by rw [if_pos ⟨e, he, heu⟩]; rfl⟩
    simp only [ne_eq, decide_eq_decide]
    constructor
    · exact fun h1 h2 => h1 (congrArg Prod.fst (hu.eq_of_username_eq hx he (h2.trans heu.symm)))
    · exact fun h1 h2 => h1 ((congrArg Prod.snd (SessionMap.eq_of_key_eq
        s.activeSessions.sorted hx he h2)).trans heu)

/-- `SET_SESSION_KEY(k, u)` inserts `k ↦ u` into the map without the entries of `u`. -/
theorem setSessionKey_entries (s : Master) (k : Nat) (u : String)
    (hu : UniqueUsers s.activeSessions) :
    (setSessionKey s k u).activeSessions.entries =
      SessionMap.insertEntry k u (s.activeSessions.entries.filter (·.2 ≠ u)) := by
  show SessionMap.insertEntry k u (displaceSession s k u).activeSessions.entries = _
  rw [(displaceSession_spec s k u hu).1]

theorem setSessionKey_uniqueUsers (s : Master) (k : Nat) (u : String)
    (hu : UniqueUsers s.activeSessions) : UniqueUsers (setSessionKey s k u).activeSessions := by
  unfold UniqueUsers SessionMap.usernames
  rw [setSessionKey_entries s k u hu]
  have hl : ((s.activeSessions.entries.filter (·.2 ≠ u)).map Prod.snd).Nodup :=
    hu.sublist ((List.filter_sublist _).map _)
  by_cases hk : ∃ w, (k, w) ∈ s.activeSessions.entries.filter (·.2 ≠ u)
  · rwa [SessionMap.insertEntry_of_key_mem k u (s.activeSessions.sorted.filter _) hk]
  · push_neg at hk
    refine ((SessionMap.insertEntry_perm_of_key_not_mem k u
      fun e he h => hk e.2 (h ▸ he)).map Prod.snd).nodup_iff.mpr ?_
    simp only [List.map_cons, List.nodup_cons, hl, and_true]
    simp

/-- Without a key collision, `SET_SESSION_KEY(k, u)` leaves exactly one entry of `u`,
at `k`. -/
theorem setSessionKey_binds (s : Master) (k : Nat) (u : String)
    (hu : UniqueUsers s.activeSessions) (hk : ∀ w, (k, w) ∈ s.activeSessions.entries → w = u)
    (k' : Nat) : (k', u) ∈ (setSessionKey s k u).activeSessions.entries ↔ k' = k := by
  have hk' : ∀ e ∈ s.activeSessions.entries.filter (·.2 ≠ u), e.1 ≠ k := by
    intro e he h
    simp only [List.mem_filter, decide_eq_true_eq] at he
    exact he.2 (hk e.2 (by rw [← h]; exact he.1))
  rw [setSessionKey_entries s k u hu,
    (SessionMap.insertEntry_perm_of_key_not_mem k u hk').mem_iff]
  simp

/-- A user who logs in again under another key is displaced: after `SET_SESSION_KEY(100,
alice)`, `SET_SESSION_KEY(200, alice)` binds alice to 200 and no longer to 100. -/
theorem setSessionKey_binds_after_displacement :
    let s : Master :=
      handlePacket (startup "" false) ⟨⟨7, 7⟩, none, some (.setSessionKey 100 "alice")⟩
    ((100, "alice") ∈ (setSessionKey s 200 "alice").activeSessions.entries ↔ 100 = 200) ∧
      ((200, "alice") ∈ (setSessionKey s 200 "alice").activeSessions.entries ↔ 200 = 200) :=
  have he : (handlePacket (startup "" false)
      ⟨⟨7, 7⟩, none, some (.setSessionKey 100 "alice")⟩).activeSessions.entries =
        [(100, "alice")] := by decide
  ⟨setSessionKey_binds _ 200 "alice" (by unfold UniqueUsers; decide)
      (fun _ h => by simp [he] at h) 100,
    setSessionKey_binds _ 200 "alice" (by unfold UniqueUsers; decide)
      (fun _ h => by simp [he] at h) 200⟩

/-- A key bound to another user keeps it: after `SET_SESSION_KEY(100, alice)` on
`{100 ↦ bob}`, `alice` has no session and no alert went out. -/
theorem setSessionKey_keeps_bound_key :
    let s : Master :=
      handlePacket (startup "10.0.0.1" false) ⟨⟨7, 7⟩, none, some (.setSessionKey 100 "bob")⟩
    let s' : Master := handlePacket s ⟨⟨8, 8⟩, none, some (.setSessionKey 100 "alice")⟩
    Reachable s ∧ s.activeSessions.entries = [(100, "bob")] ∧
      s'.activeSessions.entries = [(100, "bob")] ∧ s'.effects = [] :=
  ⟨.step (.startup _ _) (.dispatch _ _), by decide, by decide, by decide⟩

/-- `REQUEST_SESSION_KEY(u)` from `addr` sends exactly one `SESSION_KEY_RESPONSE`, carrying
the key bound to `u`, when `u` has an entry, and nothing otherwise. -/
def AnswersSessionKey (s : Master) (addr : SysAddr) (u : String) : Prop :=
  let s' := handlePacket s ⟨addr, none, some (.requestSessionKey u)⟩
  (∃ k, (∀ k', (k', u) ∈ s.activeSessions.entries ↔ k' = k) ∧
      s'.effects = s.effects ++ [.send addr (.sessionKeyResponse k u)]) ∨
    ((∀ k, (k, u) ∉ s.activeSessions.entries) ∧ s'.effects = s.effects)

theorem requestSessionKey_answers (s : Master) (addr : SysAddr) (u : String)
    (hu : UniqueUsers s.activeSessions) : AnswersSessionKey s addr u := by
  show (∃ k, _ ∧ (requestSessionKey s addr u).effects = _) ∨
    (_ ∧ (requestSessionKey s addr u).effects = _)
  unfold requestSessionKey
  cases h : s.activeSessions.entries.find? (·.2 == u) with
  | none => exact .inr ⟨fun k hk => by simpa using List.find?_eq_none.mp h _ hk, rfl⟩
  | some e =>
    have he := List.mem_of_find?_eq_some h
    have heu : e.2 = u := by simpa using List.find?_some h
    refine .inl ⟨e.1, fun k' => ⟨fun hk' => ?_, ?_⟩, by simp [heu]⟩
    · exact congrArg Prod.fst (hu.eq_of_username_eq hk' he heu.symm)
    · rintro rfl
      rw [← heu]
      exact he

theorem startup_activeSessions (ip : String) (prestart : Bool) :
    (startup ip prestart).activeSessions = .empty := by
  cases prestart <;> rfl

theorem reachable_uniqueUsers {s : Master} (hs : Reachable s) : UniqueUsers s.activeSessions := by
  induction hs with
  | startup ip prestart => rw [UniqueUsers, startup_activeSessions]; exact List.nodup_nil
  | step _ h ih =>
    rcases h.activeSessions with h' | ⟨s₀, k, u, h₀, rfl⟩
    · rwa [UniqueUsers, h']
    · exact setSessionKey_uniqueUsers s₀ k u (h₀ ▸ ih)

/-- Along every run, a username has at most one session key, and `REQUEST_SESSION_KEY`
answers with it. -/
theorem reachable_sessions {s : Master} (hs : Reachable s) :
    (∀ k k' u, (k, u) ∈ s.activeSessions.entries → (k', u) ∈ s.activeSessions.entries →
        k = k') ∧ ∀ addr u, AnswersSessionKey s addr u :=
  ⟨fun _ _ _ h h' => congrArg Prod.fst ((reachable_uniqueUsers hs).eq_of_username_eq h h' rfl),
    fun addr u => requestSessionKey_answers s addr u (reachable_uniqueUsers hs)⟩

/-- After alice logs in under 100 and again under 200, she has the one session 200. -/
theorem reachable_sessions_after_login :
    let s₁ : Master :=
      handlePacket (startup "10.0.0.1" false) ⟨⟨7, 7⟩, none, some (.setSessionKey 100 "alice")⟩
    let s : Master := handlePacket s₁ ⟨⟨8, 8⟩, none, some (.setSessionKey 200 "alice")⟩
    Reachable s ∧ s.activeSessions.entries = [(200, "alice")] ∧
      ((∀ k k' u, (k, u) ∈ s.activeSessions.entries → (k', u) ∈ s.activeSessions.entries →
          k = k') ∧ ∀ addr u, AnswersSessionKey s addr u) :=
  ⟨.step (.step (.startup _ _) (.dispatch _ _)) (.dispatch _ _), by decide,
    reachable_sessions (.step (.step (.startup _ _) (.dispatch _ _)) (.dispatch _ _))⟩

end MasterServer.Sessions
