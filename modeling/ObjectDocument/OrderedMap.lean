/-!
# Ordered maps

A list of entries, each a key with a value, of which the order counts.  `insert` keeps every key
once: a new key goes to the end, and a key that is there keeps its place and takes the new value.
-/

namespace ObjectDocument

abbrev OrderedMap (κ α : Type) := List (κ × α)

namespace OrderedMap

variable {κ α : Type} [DecidableEq κ]

def get? (key : κ) : OrderedMap κ α → Option α
  | [] => none
  | entry :: rest => if entry.1 = key then some entry.2 else get? key rest

def insert (key : κ) (value : α) : OrderedMap κ α → OrderedMap κ α
  | [] => [(key, value)]
  | entry :: rest =>
    if entry.1 = key then (key, value) :: rest else entry :: insert key value rest

def ofEntries (entries : List (κ × α)) : OrderedMap κ α :=
  entries.foldl (fun map entry => insert entry.1 entry.2 map) []

@[simp] theorem get?_insert_self (key : κ) (value : α) (map : OrderedMap κ α) :
    get? key (insert key value map) = some value := by
  induction map with
  | nil => simp [insert, get?]
  | cons entry rest ih => by_cases h : entry.1 = key <;> simp [insert, h, get?, ih]

theorem get?_insert_of_ne {key other : κ} (h : key ≠ other) (value : α) (map : OrderedMap κ α) :
    get? other (insert key value map) = get? other map := by
  induction map with
  | nil => simp [insert, get?, h]
  | cons entry rest ih =>
    by_cases he : entry.1 = key
    · simp [insert, he, get?, h]
    · simp [insert, he, get?, ih]

/-- A key that is there keeps its place, and a new one goes to the end. -/
theorem keys_insert (key : κ) (value : α) (map : OrderedMap κ α) :
    (insert key value map).map Prod.fst =
      if key ∈ map.map Prod.fst then map.map Prod.fst else map.map Prod.fst ++ [key] := by
  induction map with
  | nil => simp [insert]
  | cons entry rest ih =>
    by_cases he : entry.1 = key
    · simp [insert, he]
    · have he' : ¬key = entry.1 := fun h => he h.symm
      by_cases hr : key ∈ rest.map Prod.fst
      · rw [if_pos hr] at ih
        rw [if_pos (by simpa using Or.inr (by simpa using hr))]
        simp [insert, he, ih]
      · rw [if_neg hr] at ih
        rw [if_neg (by simpa [he'] using hr)]
        simp [insert, he, ih]

end OrderedMap

end ObjectDocument
