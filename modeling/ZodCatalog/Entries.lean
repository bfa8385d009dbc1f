/-!
Lists of values by key, in which a later value takes the place of an earlier one. Main
statements: what is found under each key once a value was put or erased.
-/

namespace ZodCatalog.Entries

variable {κ α : Type} [BEq κ] [LawfulBEq κ]

def erase (key : κ) (entries : List (κ × α)) : List (κ × α) := entries.filter (·.1 != key)

def put (key : κ) (value : α) (entries : List (κ × α)) : List (κ × α) :=
  (key, value) :: erase key entries

theorem lookup_cons_of_ne {k l : κ} (h : k ≠ l) (value : α) (entries : List (κ × α)) :
    ((l, value) :: entries).lookup k = entries.lookup k := by
  simp [List.lookup_cons, beq_false_of_ne h]

theorem lookup_erase_self (key : κ) (entries : List (κ × α)) :
    (erase key entries).lookup key = none := by
  induction entries with
  | nil => rfl
  | cons e es ih =>
    obtain ⟨l, v⟩ := e
    by_cases h : l = key
    · simpa [erase, h] using ih
    · simpa [erase, h, lookup_cons_of_ne (Ne.symm h)] using ih

theorem lookup_erase_of_ne {key k : κ} (h : k ≠ key) (entries : List (κ × α)) :
    (erase key entries).lookup k = entries.lookup k := by
  induction entries with
  | nil => rfl
  | cons e es ih =>
    obtain ⟨l, v⟩ := e
    by_cases hl : l = key
    · subst hl
      simpa [erase, lookup_cons_of_ne h] using ih
    · by_cases hk : k = l
      · subst hk
        simp [erase, hl]
      · simpa [erase, hl, lookup_cons_of_ne hk] using ih

theorem erase_put_self (key : κ) (value : α) (entries : List (κ × α)) :
    erase key (put key value entries) = erase key entries := by
  simp [erase, put]

/-- Of two values put under one key, only the later counts. -/
theorem put_put (key : κ) (first second : α) (entries : List (κ × α)) :
    put key second (put key first entries) = put key second entries := by
  rw [put, erase_put_self, put]

theorem lookup_put_self (key : κ) (value : α) (entries : List (κ × α)) :
    (put key value entries).lookup key = some value := by
  simp [put]

theorem lookup_put_of_ne {key k : κ} (h : k ≠ key) (value : α) (entries : List (κ × α)) :
    (put key value entries).lookup k = entries.lookup k := by
  rw [put, lookup_cons_of_ne h, lookup_erase_of_ne h]

end ZodCatalog.Entries
