/-!
# Tables

Finite maps that keep their keys in the order of first insertion. Writing a key again changes its
value and not its place.
-/

namespace ApiStubs

/-- Entries with one key are not seen from another one. -/
theorem lookup_filter_ne {κ α : Type} [BEq κ] [LawfulBEq κ] [DecidableEq κ] {key other : κ}
    {entries : List (κ × α)} (h : other ≠ key) :
    (entries.filter (·.1 ≠ key)).lookup other = entries.lookup other := by
  induction entries with
  | nil => rfl
  | cons p entries ih =>
    obtain ⟨k, a⟩ := p
    by_cases hk : k = key
    · subst hk
      simp only [List.filter_cons, ne_eq, not_true_eq_false, decide_false, Bool.false_eq_true,
        if_false, List.lookup_cons, beq_false_of_ne h, ih]
    · simp only [List.filter_cons, ne_eq, hk, not_false_eq_true, decide_true, if_true,
        List.lookup_cons, ih]

/-- A list of key-value pairs in which no key occurs twice. -/
structure Table (κ α : Type) where
  entries : List (κ × α) := []
  nodup : (entries.map Prod.fst).Nodup := by exact List.Pairwise.nil

namespace Table

variable {κ α β : Type}

/-- The keys in order. -/
def keys (t : Table κ α) : List κ :=
  t.entries.map Prod.fst

def isEmpty (t : Table κ α) : Bool :=
  t.entries.isEmpty

def size (t : Table κ α) : Nat :=
  t.entries.length

instance : Inhabited (Table κ α) := ⟨{}⟩

variable [DecidableEq κ]

/-- Writes one entry of a list. -/
def putEntry (k : κ) (v : α) : List (κ × α) → List (κ × α)
  | [] => [(k, v)]
  | (k', v') :: rest => if k' = k then (k', v) :: rest else (k', v') :: putEntry k v rest

theorem mem_keys_putEntry (k : κ) (v : α) (x : κ) (l : List (κ × α)) :
    x ∈ (putEntry k v l).map Prod.fst ↔ x = k ∨ x ∈ l.map Prod.fst := by
  induction l with
  | nil => simp [putEntry]
  | cons p rest ih =>
    by_cases h : p.1 = k
    · simp [putEntry, h]
    · simp only [putEntry, h, if_false, List.map_cons, List.mem_cons, ih]
      exact ⟨fun h => h.elim (fun h => .inr (.inl h)) fun h => h.elim .inl fun h => .inr (.inr h),
        fun h => h.elim (fun h => .inr (.inl h)) fun h => h.elim .inl fun h => .inr (.inr h)⟩

theorem nodup_putEntry (k : κ) (v : α) {l : List (κ × α)} (hl : (l.map Prod.fst).Nodup) :
    ((putEntry k v l).map Prod.fst).Nodup := by
  induction l with
  | nil => simp [putEntry]
  | cons p rest ih =>
    simp only [List.map_cons, List.nodup_cons] at hl
    by_cases h : p.1 = k
    · simp only [putEntry, h, if_true, List.map_cons, List.nodup_cons]
      exact ⟨h ▸ hl.1, hl.2⟩
    · simp only [putEntry, h, if_false, List.map_cons, List.nodup_cons, mem_keys_putEntry]
      exact ⟨fun hp => hp.elim False.elim hl.1, ih hl.2⟩

theorem putEntry_of_not_mem (k : κ) (v : α) {l : List (κ × α)} (h : k ∉ l.map Prod.fst) :
    putEntry k v l = l ++ [(k, v)] := by
  induction l with
  | nil => rfl
  | cons p rest ih =>
    simp only [List.map_cons, List.mem_cons, not_or] at h
    rw [putEntry, if_neg (Ne.symm h.1), ih h.2, List.cons_append]

theorem mem_putEntry {k : κ} {v : α} {p : κ × α} {l : List (κ × α)} (h : p ∈ putEntry k v l) :
    p = (k, v) ∨ p ∈ l := by
  induction l with
  | nil => exact .inl (List.mem_singleton.mp h)
  | cons q rest ih =>
    rw [putEntry] at h
    split at h
    · next hkey =>
      rcases List.mem_cons.mp h with rfl | h
      · exact .inl (by rw [hkey])
      · exact .inr (List.mem_cons_of_mem _ h)
    · rcases List.mem_cons.mp h with rfl | h
      · exact .inr List.mem_cons_self
      · exact (ih h).imp_right (List.mem_cons_of_mem _)

/-- Writes an entry. -/
def insert (t : Table κ α) (k : κ) (v : α) : Table κ α :=
  ⟨putEntry k v t.entries, nodup_putEntry k v t.nodup⟩

/-- The table of a list of pairs; of two pairs with one key the later value counts. -/
def ofList (pairs : List (κ × α)) : Table κ α :=
  pairs.foldl (fun t p => t.insert p.1 p.2) {}

theorem entries_foldl_insert (pairs : List (κ × α)) (t : Table κ α)
    (h : ((t.entries ++ pairs).map Prod.fst).Nodup) :
    (pairs.foldl (fun t p => t.insert p.1 p.2) t).entries = t.entries ++ pairs := by
  induction pairs generalizing t with
  | nil => simp
  | cons p rest ih =>
    have hnew : p.1 ∉ t.entries.map Prod.fst := by
      rw [List.map_append, List.map_cons, List.nodup_append] at h
      exact fun hin => h.2.2 p.1 hin p.1 List.mem_cons_self rfl
    have hput : (t.insert p.1 p.2).entries = t.entries ++ [p] := putEntry_of_not_mem p.1 p.2 hnew
    rw [List.foldl_cons, ih _ (by simpa [hput] using h), hput, List.append_assoc,
      List.singleton_append]

/-- Pairs of which no two have one key are the entries of their table. -/
theorem entries_ofList {pairs : List (κ × α)} (h : (pairs.map Prod.fst).Nodup) :
    (ofList pairs).entries = pairs :=
  entries_foldl_insert pairs {} h

theorem mem_of_mem_foldl_insert {p : κ × α} {pairs : List (κ × α)} {t : Table κ α}
    (h : p ∈ (pairs.foldl (fun t p => t.insert p.1 p.2) t).entries) :
    p ∈ t.entries ∨ p ∈ pairs := by
  induction pairs generalizing t with
  | nil => exact .inl h
  | cons q rest ih =>
    rcases ih h with h | h
    · exact (mem_putEntry h).elim (fun h => .inr (h ▸ List.mem_cons_self)) .inl
    · exact .inr (List.mem_cons_of_mem _ h)

/-- Whatever is in a table is one of the pairs that it is made of. -/
theorem mem_of_mem_ofList {p : κ × α} {pairs : List (κ × α)} (h : p ∈ (ofList pairs).entries) :
    p ∈ pairs :=
  (mem_of_mem_foldl_insert h).resolve_left List.not_mem_nil

/-- The value under a key. -/
def get? (t : Table κ α) (k : κ) : Option α :=
  t.entries.lookup k

end Table

end ApiStubs
