/-! Finite maps as lists of entries, at most one for each key. -/

namespace Intake

/-- A finite map. The order of its entries is never shown. -/
structure Table (κ ν : Type) where
  entries : List (κ × ν)
  unique : (entries.map (·.1)).Nodup

namespace Table

variable {κ ν : Type} [DecidableEq κ]

/-- The map without entries. -/
def empty : Table κ ν := ⟨[], List.nodup_nil⟩

instance : Inhabited (Table κ ν) := ⟨empty⟩

/-- The value of a key. -/
def find? (t : Table κ ν) (key : κ) : Option ν :=
  (t.entries.find? fun entry => entry.1 = key).map (·.2)

/-- Keeps the entries whose values pass a test. -/
def filter (t : Table κ ν) (keep : ν → Bool) : Table κ ν :=
  ⟨t.entries.filter fun entry => keep entry.2,
    List.Pairwise.sublist (List.Sublist.map _ List.filter_sublist) t.unique⟩

/-- Removes the entry of a key. -/
def erase (t : Table κ ν) (key : κ) : Table κ ν :=
  ⟨t.entries.filter fun entry => entry.1 ≠ key,
    List.Pairwise.sublist (List.Sublist.map _ List.filter_sublist) t.unique⟩

/-- Sets the value of a key. -/
def insert (t : Table κ ν) (key : κ) (value : ν) : Table κ ν :=
  ⟨(key, value) :: (t.erase key).entries, by
    -- The entries kept behind the new one have other keys.
    simp only [List.map_cons, List.nodup_cons]
    refine ⟨?_, (t.erase key).unique⟩
    simp [erase]⟩

/-- The number of entries. -/
def size (t : Table κ ν) : Nat := t.entries.length

/-- No key has a value in the empty map. -/
@[simp] theorem find?_empty (key : κ) : (empty : Table κ ν).find? key = none := rfl

/-- An erased key has no value. -/
@[simp] theorem find?_erase_self (t : Table κ ν) (key : κ) : (t.erase key).find? key = none := by
  simp [find?, erase]

/-- Erasing a key keeps the values of the others. -/
theorem find?_erase_of_ne (t : Table κ ν) {key other : κ} (differ : other ≠ key) :
    (t.erase key).find? other = t.find? other := by
  -- Every entry of the other key passes the filter.
  simp only [find?, erase, List.find?_filter]
  congr 2
  funext entry
  by_cases isOther : entry.1 = other
  · simp [isOther, differ]
  · simp [isOther]

/-- A set key has the value it was set to. -/
@[simp] theorem find?_insert_self (t : Table κ ν) (key : κ) (value : ν) :
    (t.insert key value).find? key = some value := by
  simp [find?, insert]

/-- Setting a key keeps the values of the others. -/
theorem find?_insert_of_ne (t : Table κ ν) {key other : κ} (value : ν) (differ : other ≠ key) :
    (t.insert key value).find? other = t.find? other := by
  -- Inserting puts the entry in front of what is left when the key is erased.
  rw [← find?_erase_of_ne t differ]
  simp only [find?, insert, List.find?_cons]
  simp [Ne.symm differ]

end Table

end Intake
