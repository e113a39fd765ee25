/-!
# Tables

A finite map that lists its entries in the order in which their keys first came. Main statements:
`get?_insert_self` and `get?_insert_of_ne`.
-/

namespace CommentBot

/-- A finite map. -/
structure Table (κ α : Type) where
  entries : List (κ × α)
  deriving DecidableEq, Repr

namespace Table

variable {κ α : Type} [DecidableEq κ]

/-- The map without entries. -/
def empty : Table κ α := ⟨[]⟩

/-- The value at a key. -/
def get? (t : Table κ α) (k : κ) : Option α := t.entries.lookup k

/-- Whether a key has a value. -/
def contains (t : Table κ α) (k : κ) : Bool := (t.get? k).isSome

/-- The entries with the one at `k` replaced, or a new one behind them. -/
def insertEntry (k : κ) (a : α) : List (κ × α) → List (κ × α)
  | [] => [(k, a)]
  | (k', a') :: rest => if k' = k then (k, a) :: rest else (k', a') :: insertEntry k a rest

/-- Sets the value at a key. -/
def insert (t : Table κ α) (k : κ) (a : α) : Table κ α := ⟨insertEntry k a t.entries⟩

/-- Leaves out a key. -/
def erase (t : Table κ α) (k : κ) : Table κ α := ⟨t.entries.filter fun entry => entry.1 ≠ k⟩

theorem contains_eq_true_iff {t : Table κ α} {k : κ} : t.contains k = true ↔ ∃ a, t.get? k = some a :=
  Option.isSome_iff_exists

theorem contains_eq_false_iff {t : Table κ α} {k : κ} : t.contains k = false ↔ t.get? k = none := by
  rw [contains, Option.isSome_eq_false_iff, Option.isNone_iff_eq_none]

@[simp] theorem get?_empty (k : κ) : (empty : Table κ α).get? k = none := rfl

theorem lookup_insertEntry_self (k : κ) (a : α) (entries : List (κ × α)) :
    (insertEntry k a entries).lookup k = some a := by
  induction entries with
  | nil => simp [insertEntry]
  | cons entry rest ih =>
    obtain ⟨k', a'⟩ := entry
    by_cases h : k' = k
    · simp [insertEntry, h]
    · have : (k == k') = false := by simpa using fun e => h e.symm
      simp [insertEntry, h, List.lookup_cons, this, ih]

theorem lookup_insertEntry_of_ne {k k₀ : κ} (h : k₀ ≠ k) (a : α) (entries : List (κ × α)) :
    (insertEntry k a entries).lookup k₀ = entries.lookup k₀ := by
  have hk : (k₀ == k) = false := by simpa using h
  induction entries with
  | nil => simp [insertEntry, List.lookup_cons, hk]
  | cons entry rest ih =>
    obtain ⟨k', a'⟩ := entry
    by_cases h' : k' = k
    · subst h'
      simp [insertEntry, List.lookup_cons, hk]
    · simp [insertEntry, h', List.lookup_cons, ih]

@[simp] theorem get?_insert_self (t : Table κ α) (k : κ) (a : α) : (t.insert k a).get? k = some a :=
  lookup_insertEntry_self k a t.entries

theorem get?_insert_of_ne (t : Table κ α) {k k₀ : κ} (h : k₀ ≠ k) (a : α) :
    (t.insert k a).get? k₀ = t.get? k₀ :=
  lookup_insertEntry_of_ne h a t.entries

theorem insertEntry_insertEntry (k : κ) (a b : α) (entries : List (κ × α)) :
    insertEntry k b (insertEntry k a entries) = insertEntry k b entries := by
  induction entries with
  | nil => simp [insertEntry]
  | cons entry rest ih =>
    obtain ⟨k', a'⟩ := entry
    by_cases h : k' = k
    · simp [insertEntry, h]
    · simp [insertEntry, h, ih]

/-- Of two values set at one key the later one stays. -/
theorem insert_insert (t : Table κ α) (k : κ) (a b : α) : (t.insert k a).insert k b = t.insert k b :=
  congrArg Table.mk (insertEntry_insertEntry k a b t.entries)

/-- A value is at a key after another one was set if it was set, or was there before. -/
theorem get?_insert_eq_some_iff {t : Table κ α} {k k₀ : κ} {a b : α} : (t.insert k a).get? k₀ = some b ↔
    (k₀ = k ∧ a = b) ∨ (k₀ ≠ k ∧ t.get? k₀ = some b) := by
  by_cases h : k₀ = k
  · subst h
    simp
  · simp [get?_insert_of_ne t h a, h]

theorem contains_insert_iff {t : Table κ α} {k k₀ : κ} {a : α} :
    (t.insert k a).contains k₀ = true ↔ k₀ = k ∨ t.contains k₀ = true := by
  by_cases h : k₀ = k
  · subst h
    simp [contains]
  · simp [contains, get?_insert_of_ne t h a, h]

/-- Leaving out a key that has a value makes the table smaller. -/
theorem length_erase_lt {t : Table κ α} {k : κ} {a : α} (h : t.get? k = some a) :
    (t.erase k).entries.length < t.entries.length := by
  obtain ⟨entries⟩ := t
  simp only [get?, erase] at h ⊢
  induction entries with
  | nil => simp at h
  | cons entry rest ih =>
    obtain ⟨k', a'⟩ := entry
    by_cases hk : k' = k
    · simpa [hk] using Nat.lt_succ_of_le (List.length_filter_le _ rest)
    · have : (k == k') = false := by simpa using fun e => hk e.symm
      rw [List.lookup_cons, this] at h
      simpa [hk] using ih h

end Table

end CommentBot
