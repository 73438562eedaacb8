/-!
# Tables

Values under distinct names, kept in the order of the names. A table is determined by what it gives
for each name (`Table.ext_get?`), and `get?_put` and `get?_erase` say how a change shows.
-/

namespace FiscalGateway

/-- Values under distinct names. -/
structure Table (α : Type) where
  entries : List (String × α)
  sorted : entries.Pairwise fun a b => a.1 < b.1
  deriving DecidableEq

namespace Table

variable {α : Type}

instance : Inhabited (Table α) := ⟨⟨[], .nil⟩⟩

/-- No entry. -/
def empty : Table α := ⟨[], .nil⟩

/-- Whether there is no entry. -/
def isEmpty (t : Table α) : Bool := t.entries.isEmpty

/-- The names, in order. -/
def keys (t : Table α) : List String := t.entries.map (·.1)

/-- The value under a name. -/
def get? (t : Table α) (key : String) : Option α := t.entries.lookup key

/-- Whether a name has a value. -/
def contains (t : Table α) (key : String) : Bool := (t.get? key).isSome

/-- Puts an entry in its place in a list of entries. -/
def putEntry (key : String) (a : α) : List (String × α) → List (String × α)
  | [] => [(key, a)]
  | (k, b) :: rest =>
    if key = k then (key, a) :: rest
    else if key < k then (key, a) :: (k, b) :: rest
    else (k, b) :: putEntry key a rest

theorem mem_putEntry {key : String} {a : α} {l : List (String × α)} {e : String × α}
    (h : e ∈ putEntry key a l) : e = (key, a) ∨ e ∈ l := by
  induction l with
  | nil => simpa [putEntry] using h
  | cons x l ih =>
    obtain ⟨k, b⟩ := x
    unfold putEntry at h
    split at h
    · simp only [List.mem_cons] at h ⊢
      exact h.imp_right .inr
    · split at h
      · simpa using h
      · simp only [List.mem_cons] at h ⊢
        rcases h with h | h
        · exact .inr (.inl h)
        · exact (ih h).imp_right .inr

theorem sorted_putEntry (key : String) (a : α) {l : List (String × α)}
    (h : l.Pairwise fun a b => a.1 < b.1) : (putEntry key a l).Pairwise fun a b => a.1 < b.1 := by
  induction l with
  | nil => simp [putEntry]
  | cons x l ih =>
    obtain ⟨k, b⟩ := x
    rw [List.pairwise_cons] at h
    unfold putEntry
    split
    · next e => exact List.pairwise_cons.2 ⟨by simpa [e] using h.1, h.2⟩
    · next ne =>
      split
      · next lt =>
        refine List.pairwise_cons.2 ⟨fun e he => ?_, List.pairwise_cons.2 h⟩
        rcases List.mem_cons.1 he with rfl | he
        · exact lt
        · exact String.lt_trans lt (h.1 e he)
      · next nlt =>
        refine List.pairwise_cons.2 ⟨fun e he => ?_, ih h.2⟩
        rcases mem_putEntry he with rfl | he
        · refine String.not_le.1 fun le => ?_
          exact nlt (String.not_le.1 fun ge => ne (String.le_antisymm le ge))
        · exact h.1 e he

/-- Puts a value under a name, in the place of another one if need be. -/
def put (t : Table α) (key : String) (a : α) : Table α :=
  ⟨putEntry key a t.entries, sorted_putEntry key a t.sorted⟩

/-- Takes a name out. -/
def erase (t : Table α) (key : String) : Table α :=
  ⟨t.entries.filter (·.1 ≠ key), t.sorted.filter _⟩

/-- Puts the values one after the other. -/
def putAll (t : Table α) (entries : List (String × α)) : Table α :=
  entries.foldl (fun t (key, a) => t.put key a) t

/-- The table of these values; of two under one name the later one counts. -/
def ofList (entries : List (String × α)) : Table α := empty.putAll entries

theorem lookup_cons_if (key k : String) (a : α) (l : List (String × α)) :
    ((k, a) :: l).lookup key = if key = k then some a else l.lookup key := by
  by_cases h : key = k
  · simp [h]
  · simp [List.lookup_cons, h, beq_false_of_ne h]

theorem lookup_putEntry (key : String) (a : α) (k : String) (l : List (String × α)) :
    (putEntry key a l).lookup k = if k = key then some a else l.lookup k := by
  induction l with
  | nil => simp [putEntry, lookup_cons_if]
  | cons x l ih =>
    obtain ⟨x, b⟩ := x
    unfold putEntry
    by_cases hx : key = x
    · subst hx
      by_cases hk : k = key <;> simp [lookup_cons_if, hk]
    · by_cases hlt : key < x
      · by_cases hk : k = key <;> simp [hx, hlt, lookup_cons_if, hk]
      · by_cases hk : k = x
        · subst hk
          simp [hlt, hx, Ne.symm hx]
        · simp [hx, hlt, lookup_cons_if, hk, ih]

theorem lookup_filter_ne (key k : String) (l : List (String × α)) :
    (l.filter (·.1 ≠ key)).lookup k = if k = key then none else l.lookup k := by
  induction l with
  | nil => simp
  | cons x l ih =>
    obtain ⟨x, b⟩ := x
    by_cases hx : x = key
    · subst hx
      rw [List.filter_cons_of_neg (by simp), ih, lookup_cons_if]
      by_cases hk : k = x <;> simp [hk]
    · rw [List.filter_cons_of_pos (by simp [hx]), lookup_cons_if, lookup_cons_if, ih]
      by_cases hk : k = x
      · subst hk
        simp [hx]
      · simp [hk]

@[simp] theorem get?_empty (key : String) : (empty : Table α).get? key = none := rfl

@[simp] theorem get?_put (t : Table α) (key : String) (a : α) (k : String) :
    (t.put key a).get? k = if k = key then some a else t.get? k :=
  lookup_putEntry key a k t.entries

@[simp] theorem get?_erase (t : Table α) (key k : String) :
    (t.erase key).get? k = if k = key then none else t.get? k :=
  lookup_filter_ne key k t.entries

/-- An entry is found under its name. -/
theorem lookup_eq_some_iff {l : List (String × α)} (h : l.Pairwise fun a b => a.1 < b.1)
    (key : String) (a : α) : l.lookup key = some a ↔ (key, a) ∈ l := by
  induction l with
  | nil => simp
  | cons x l ih =>
    obtain ⟨x, b⟩ := x
    rw [List.pairwise_cons] at h
    rw [lookup_cons_if]
    by_cases hk : key = x
    · subst hk
      have : ∀ c, (key, c) ∉ l := fun c hc => String.lt_irrefl key (h.1 _ hc)
      simp [this, eq_comm]
    · simp [hk, ih h.2]

theorem mem_entries_iff (t : Table α) (key : String) (a : α) :
    (key, a) ∈ t.entries ↔ t.get? key = some a := (lookup_eq_some_iff t.sorted key a).symm

theorem sorted_keys (t : Table α) : t.keys.Pairwise (· < ·) := List.pairwise_map.2 t.sorted

theorem mem_keys_iff (t : Table α) (key : String) : key ∈ t.keys ↔ t.contains key = true := by
  simp only [keys, contains, List.mem_map, Option.isSome_iff_exists, ← mem_entries_iff]
  constructor
  · rintro ⟨⟨_, a⟩, ha, rfl⟩
    exact ⟨a, ha⟩
  · rintro ⟨a, ha⟩
    exact ⟨(key, a), ha, rfl⟩

theorem get?_eq_none_iff {t : Table α} {key : String} :
    t.get? key = none ↔ ¬ t.contains key = true := by
  rw [contains, Option.not_isSome_iff_eq_none]

/-- Tables that give the same for every name are the same. -/
theorem ext_get? {t t' : Table α} (h : ∀ key, t.get? key = t'.get? key) : t = t' := by
  have perm : t.entries.Perm t'.entries := by
    have nodup {l : List (String × α)} (h : l.Pairwise fun a b => a.1 < b.1) : l.Nodup :=
      h.imp fun {a b} lt (e : a = b) => by
        subst e
        exact String.lt_irrefl _ lt
    refine (List.perm_ext_iff_of_nodup (nodup t.sorted) (nodup t'.sorted)).2 fun e => ?_
    rw [mem_entries_iff, mem_entries_iff, h]
  have eq : t.entries = t'.entries :=
    perm.eq_of_pairwise (fun a b _ _ lt gt => (String.lt_irrefl _ (String.lt_trans lt gt)).elim)
      t.sorted t'.sorted
  cases t
  cases t'
  cases eq
  rfl

/-- Taking out a name that has no value changes nothing. -/
theorem erase_eq_self {t : Table α} {key : String} (h : t.get? key = none) :
    t.erase key = t := by
  refine ext_get? fun k => ?_
  rw [get?_erase]
  split
  · next hk => rw [hk, h]
  · rfl

end Table
end FiscalGateway
