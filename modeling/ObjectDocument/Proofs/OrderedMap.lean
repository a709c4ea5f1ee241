import Mathlib.Data.List.Nodup
import ObjectDocument.OrderedMap

/-!
# Maps of entries

`OrderedMap.ofEntries` puts entries into a map one after another, and a key that comes again takes
the place of the earlier one.  So nothing is lost exactly if no key comes twice
(`ofEntries_eq_self_iff`).
-/

namespace ObjectDocument.OrderedMap

variable {κ α : Type} [DecidableEq κ]

theorem get?_eq_none_iff {key : κ} {map : OrderedMap κ α} :
    get? key map = none ↔ key ∉ map.map (·.1) := by
  induction map with
  | nil => simp [get?]
  | cons entry rest ih =>
      rw [get?, List.map_cons, List.mem_cons, not_or]
      by_cases hkey : entry.1 = key
      · simp [hkey]
      · rw [if_neg hkey, ih]
        exact (and_iff_right (Ne.symm hkey)).symm

theorem mem_keys_iff {key : κ} {map : OrderedMap κ α} :
    key ∈ map.map (·.1) ↔ ∃ value, get? key map = some value := by
  rw [← Option.isSome_iff_exists, ← not_iff_not, ← get?_eq_none_iff, Bool.not_eq_true,
    Option.isSome_eq_false_iff, Option.isNone_iff_eq_none]

theorem get?_append_of_notMem {key : κ} {map : OrderedMap κ α} (h : key ∉ map.map (·.1))
    (rest : OrderedMap κ α) : get? key (map ++ rest) = get? key rest := by
  induction map with
  | nil => rfl
  | cons entry map ih =>
      rw [List.map_cons, List.mem_cons, not_or] at h
      rw [List.cons_append, get?, if_neg fun heq => h.1 heq.symm, ih h.2]

theorem insert_of_notMem {key : κ} {value : α} {map : OrderedMap κ α}
    (h : key ∉ map.map (·.1)) : insert key value map = map ++ [(key, value)] := by
  induction map with
  | nil => rfl
  | cons entry rest ih =>
      rw [List.map_cons, List.mem_cons, not_or] at h
      rw [insert, if_neg fun heq => h.1 heq.symm, ih h.2, List.cons_append]

theorem mem_insert {key : κ} {value : α} {map : OrderedMap κ α} {entry : κ × α}
    (h : entry ∈ insert key value map) : entry = (key, value) ∨ entry ∈ map := by
  induction map with
  | nil => exact .inl (List.mem_singleton.1 h)
  | cons first rest ih =>
      rw [insert] at h
      by_cases hkey : first.1 = key
      · rw [if_pos hkey] at h
        exact (List.mem_cons.1 h).imp_right (List.mem_cons_of_mem _)
      · rw [if_neg hkey] at h
        rcases List.mem_cons.1 h with rfl | h
        · exact .inr List.mem_cons_self
        · exact (ih h).imp_right (List.mem_cons_of_mem _)

def others (key : κ) (map : OrderedMap κ α) : OrderedMap κ α :=
  map.filter (·.1 ≠ key)

/-- Putting a value under a key leaves all other entries as they are, and where they are. -/
theorem others_insert (key : κ) (value : α) (map : OrderedMap κ α) :
    (insert key value map).others key = map.others key := by
  induction map with
  | nil => simp [insert, others]
  | cons entry rest ih =>
      rw [insert]
      by_cases hkey : entry.1 = key
      · simp [others, hkey]
      · rw [if_neg hkey, others, others, List.filter_cons_of_pos (by simpa using hkey),
          List.filter_cons_of_pos (by simpa using hkey)]
        exact congrArg (entry :: ·) ih

theorem nodup_insert {map : OrderedMap κ α} (h : (map.map Prod.fst).Nodup) (key : κ) (value : α) :
    ((insert key value map).map Prod.fst).Nodup := by
  rw [keys_insert]
  by_cases hkey : key ∈ map.map Prod.fst
  · rwa [if_pos hkey]
  · rw [if_neg hkey]
    exact List.nodup_append.2 ⟨h, List.nodup_singleton key, fun a ha b hb => by
      rw [List.mem_singleton.1 hb]
      exact fun heq => hkey (heq ▸ ha)⟩

theorem foldl_insert_of_nodup {map : OrderedMap κ α} {entries : List (κ × α)}
    (h : ((map ++ entries).map Prod.fst).Nodup) :
    entries.foldl (fun map entry => insert entry.1 entry.2 map) map = map ++ entries := by
  induction entries generalizing map with
  | nil => rw [List.foldl_nil, List.append_nil]
  | cons entry rest ih =>
      have hkey : entry.1 ∉ map.map Prod.fst := fun hkey => by
        rw [List.map_append] at h
        exact List.disjoint_of_nodup_append h hkey List.mem_cons_self
      rw [List.foldl_cons, insert_of_notMem hkey, ih (by simpa using h), List.append_assoc,
        List.singleton_append]

theorem nodup_ofEntries (entries : List (κ × α)) : ((ofEntries entries).map Prod.fst).Nodup := by
  have hfold (entries : List (κ × α)) (map : OrderedMap κ α) (h : (map.map Prod.fst).Nodup) :
      ((entries.foldl (fun map entry => insert entry.1 entry.2 map) map).map Prod.fst).Nodup := by
    induction entries generalizing map with
    | nil => exact h
    | cons entry rest ih => exact ih _ (nodup_insert h entry.1 entry.2)
  exact hfold entries [] List.nodup_nil

/-- Entries that are put into a map give a key the value of its last entry, and leave a key that
none of them has. -/
theorem get?_foldl_insert_eq_some_iff {entries : List (κ × α)} {map : OrderedMap κ α} {key : κ}
    {value : α} :
    get? key (entries.foldl (fun map entry => insert entry.1 entry.2 map) map) = some value ↔
      (∃ before after, entries = before ++ (key, value) :: after ∧ key ∉ after.map Prod.fst) ∨
        (key ∉ entries.map Prod.fst ∧ get? key map = some value) := by
  induction entries generalizing map with
  | nil => simp
  | cons entry rest ih =>
      have hsplit : (∃ before after, entry :: rest = before ++ (key, value) :: after ∧
            key ∉ after.map Prod.fst) ↔
          (entry = (key, value) ∧ key ∉ rest.map Prod.fst) ∨
            ∃ before after, rest = before ++ (key, value) :: after ∧
              key ∉ after.map Prod.fst := by
        constructor
        · rintro ⟨before, after, heq, hafter⟩
          rcases List.cons_eq_append_iff.1 heq with ⟨-, heq⟩ | ⟨before, -, heq⟩
          · cases heq
            exact .inl ⟨rfl, hafter⟩
          · exact .inr ⟨before, after, heq, hafter⟩
        · rintro (⟨rfl, hafter⟩ | ⟨before, after, rfl, hafter⟩)
          · exact ⟨[], rest, rfl, hafter⟩
          · exact ⟨entry :: before, after, rfl, hafter⟩
      rw [List.foldl_cons, ih, hsplit, List.map_cons, List.mem_cons, not_or]
      by_cases hkey : entry.1 = key
      · obtain ⟨_, found⟩ := entry
        cases hkey
        simp [and_comm, or_comm]
      · have hentry : entry ≠ (key, value) := fun h => hkey (congrArg Prod.fst h)
        simp [get?_insert_of_ne hkey, hentry, Ne.symm hkey]

theorem get?_ofEntries_eq_some_iff {entries : List (κ × α)} {key : κ} {value : α} :
    get? key (ofEntries entries) = some value ↔
      ∃ before after, entries = before ++ (key, value) :: after ∧ key ∉ after.map Prod.fst := by
  rw [ofEntries, get?_foldl_insert_eq_some_iff]
  simp [get?]

theorem mem_iff_get?_eq_some {map : OrderedMap κ α} (h : (map.map Prod.fst).Nodup) {key : κ}
    {value : α} : (key, value) ∈ map ↔ get? key map = some value := by
  induction map with
  | nil => simp [get?]
  | cons entry rest ih =>
      obtain ⟨hentry, hrest⟩ := List.nodup_cons.1 h
      rw [List.mem_cons, ih hrest, get?]
      by_cases hkey : entry.1 = key
      · obtain ⟨_, found⟩ := entry
        cases hkey
        rw [if_pos rfl, get?_eq_none_iff.2 hentry]
        simp [eq_comm]
      · have hentry : (key, value) ≠ entry := fun h => hkey (congrArg Prod.fst h).symm
        rw [if_neg hkey, or_iff_right hentry]

section

variable {ι β : Type} [DecidableEq ι] {rekey : κ → ι} (injective : Function.Injective rekey)
  (f : α → β)

include injective

theorem get?_map (key : κ) (map : OrderedMap κ α) :
    get? (rekey key) (map.map (Prod.map rekey f)) = (get? key map).map f := by
  induction map with
  | nil => rfl
  | cons entry rest ih =>
      rw [List.map_cons, get?, get?, Prod.map_fst]
      by_cases h : entry.1 = key
      · rw [if_pos (congrArg rekey h), if_pos h]
        rfl
      · rw [if_neg fun heq => h (injective heq), if_neg h, ih]

theorem insert_map (key : κ) (value : α) (map : OrderedMap κ α) :
    insert (rekey key) (f value) (map.map (Prod.map rekey f)) =
      (insert key value map).map (Prod.map rekey f) := by
  induction map with
  | nil => rfl
  | cons entry rest ih =>
      rw [List.map_cons, insert, insert, Prod.map_fst]
      by_cases h : entry.1 = key
      · rw [if_pos (congrArg rekey h), if_pos h]
        rfl
      · rw [if_neg fun heq => h (injective heq), if_neg h, ih]
        rfl

theorem ofEntries_map (entries : List (κ × α)) :
    ofEntries (entries.map (Prod.map rekey f)) =
      (ofEntries entries).map (Prod.map rekey f) := by
  have hfold (map : OrderedMap κ α) :
      (entries.map (Prod.map rekey f)).foldl (fun map entry => insert entry.1 entry.2 map)
          (map.map (Prod.map rekey f)) =
        (entries.foldl (fun map entry => insert entry.1 entry.2 map) map).map
          (Prod.map rekey f) := by
    induction entries generalizing map with
    | nil => rfl
    | cons entry rest ih =>
        rw [List.map_cons, List.foldl_cons, List.foldl_cons, ← ih, ← insert_map injective f]
        rfl
  exact hfold []

end

/-- Every entry has a place of its own exactly if no key comes twice. -/
theorem ofEntries_eq_self_iff {entries : List (κ × α)} :
    ofEntries entries = entries ↔ (entries.map Prod.fst).Nodup := by
  constructor
  · intro h
    rw [← h]
    exact nodup_ofEntries entries
  · exact fun h => foldl_insert_of_nodup h

end ObjectDocument.OrderedMap
