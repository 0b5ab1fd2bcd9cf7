import MasterServer.Basic

/-!
# `activeSessions`: a `std::map<uint32_t, std::string>`

The map is its entry list in ascending key order, each key once; the order is
a field, so no operation can build an unsorted map. A range-`for` visits the
entries in that order. `insert` is `std::map::insert`, which keeps the value
already stored under a key.
-/

namespace MasterServer

/-- A `std::map` from session keys to usernames. -/
structure SessionMap where
  entries : List (Nat × String)
  sorted : entries.Pairwise (fun a b => a.1 < b.1)

namespace SessionMap

def empty : SessionMap := ⟨[], .nil⟩

/-- Ordered insertion of one entry, leaving the list alone when the key is present. -/
def insertEntry (k : Nat) (v : String) : List (Nat × String) → List (Nat × String)
  | [] => [(k, v)]
  | e :: es =>
    if k < e.1 then (k, v) :: e :: es
    else if k = e.1 then e :: es
    else e :: insertEntry k v es

theorem mem_insertEntry {k : Nat} {v : String} {x : Nat × String} :
    ∀ {l : List (Nat × String)}, x ∈ insertEntry k v l → x = (k, v) ∨ x ∈ l
  | [], h => by simpa [insertEntry] using h
  | e :: es, h => by
    unfold insertEntry at h
    split_ifs at h
    · simpa using h
    · exact .inr h
    · rcases List.mem_cons.mp h with rfl | h
      · exact .inr (List.mem_cons_self _ _)
      · exact (mem_insertEntry h).imp_right (List.mem_cons_of_mem _)

theorem insertEntry_sorted (k : Nat) (v : String) :
    ∀ {l : List (Nat × String)}, l.Pairwise (fun a b => a.1 < b.1) →
      (insertEntry k v l).Pairwise (fun a b => a.1 < b.1)
  | [], _ => by simp [insertEntry]
  | e :: es, h => by
    rw [List.pairwise_cons] at h
    unfold insertEntry
    split_ifs with hlt heq
    · refine List.Pairwise.cons (fun b hb => ?_) (List.Pairwise.cons h.1 h.2)
      rcases List.mem_cons.mp hb with rfl | hb
      · exact hlt
      · exact Nat.lt_trans hlt (h.1 b hb)
    · exact List.Pairwise.cons h.1 h.2
    · refine List.Pairwise.cons (fun b hb => ?_) (insertEntry_sorted k v h.2)
      rcases mem_insertEntry hb with rfl | hb
      · show e.1 < k; omega
      · exact h.1 b hb

/-- An existing key keeps its entry: `std::map::insert` does not overwrite. -/
theorem insertEntry_of_key_mem (k : Nat) (v : String) :
    ∀ {l : List (Nat × String)}, l.Pairwise (fun a b => a.1 < b.1) →
      (∃ w, (k, w) ∈ l) → insertEntry k v l = l
  | [], _, ⟨_, h⟩ => absurd h (List.not_mem_nil _)
  | e :: es, hs, ⟨w, hw⟩ => by
    rw [List.pairwise_cons] at hs
    unfold insertEntry
    rcases List.mem_cons.mp hw with rfl | hw
    · simp
    · have := hs.1 _ hw
      simp only at this
      rw [if_neg (by omega), if_neg (by omega),
        insertEntry_of_key_mem k v hs.2 ⟨w, hw⟩]

/-- A fresh key adds exactly one entry. -/
theorem insertEntry_perm_of_key_not_mem (k : Nat) (v : String) :
    ∀ {l : List (Nat × String)}, (∀ e ∈ l, e.1 ≠ k) → (insertEntry k v l).Perm ((k, v) :: l)
  | [], _ => by simp [insertEntry]
  | e :: es, h => by
    have he : e.1 ≠ k := h e (List.mem_cons_self _ _)
    unfold insertEntry
    rw [if_neg (Ne.symm he)]
    split_ifs
    · exact .refl _
    · exact ((insertEntry_perm_of_key_not_mem k v
        fun x hx => h x (List.mem_cons_of_mem _ hx)).cons e).trans (.swap _ _ _)

/-- `std::map::erase(key)`. -/
def erase (m : SessionMap) (k : Nat) : SessionMap :=
  ⟨m.entries.filter (fun e => e.1 ≠ k), m.sorted.filter _⟩

/-- `std::map::insert(std::make_pair(k, v))`. -/
def insert (m : SessionMap) (k : Nat) (v : String) : SessionMap :=
  ⟨insertEntry k v m.entries, insertEntry_sorted k v m.sorted⟩

/-- The usernames stored, one per entry. -/
def usernames (m : SessionMap) : List String := m.entries.map Prod.snd

@[simp] theorem erase_entries (m : SessionMap) (k : Nat) :
    (m.erase k).entries = m.entries.filter (fun e => e.1 ≠ k) := rfl

@[simp] theorem insert_entries (m : SessionMap) (k : Nat) (v : String) :
    (m.insert k v).entries = insertEntry k v m.entries := rfl

/-- Keys are unique: two entries with one key are the same entry. -/
theorem eq_of_key_eq {a b : Nat × String} :
    ∀ {l : List (Nat × String)}, l.Pairwise (fun a b => a.1 < b.1) → a ∈ l → b ∈ l →
      a.1 = b.1 → a = b
  | [], _, ha, _, _ => absurd ha (List.not_mem_nil _)
  | e :: es, hs, ha, hb, h => by
    rw [List.pairwise_cons] at hs
    rcases List.mem_cons.mp ha with rfl | ha' <;> rcases List.mem_cons.mp hb with rfl | hb'
    · rfl
    · exact absurd h (Nat.ne_of_lt (hs.1 b hb'))
    · exact absurd h.symm (Nat.ne_of_lt (hs.1 a ha'))
    · exact eq_of_key_eq hs.2 ha' hb' h

end SessionMap

end MasterServer
