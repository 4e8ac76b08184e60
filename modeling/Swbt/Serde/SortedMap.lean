import Mathlib.Order.Lattice
import Mathlib.Data.List.Induction
/-!
# Maps ordered by key

A map as the list of its entries in increasing order of their keys, the way
an ordered tree map iterates. Two maps with the same entries are equal.
-/

set_option autoImplicit false

namespace Serde

variable {κ ν : Type} [LinearOrder κ]

structure SortedMap (κ ν : Type) [LinearOrder κ] where
  entries : List (κ × ν)
  sorted : entries.Pairwise fun a b => a.1 < b.1

namespace SortedMap

@[ext] theorem ext {map other : SortedMap κ ν} (h : map.entries = other.entries) : map = other := by
  obtain ⟨entries, sorted⟩ := map
  obtain ⟨entries', sorted'⟩ := other
  cases h
  rfl

def empty : SortedMap κ ν := ⟨[], List.Pairwise.nil⟩

/-! ## Insertion -/

/-- Puts an entry in its place, over the one of the same key. -/
def insertEntry (key : κ) (value : ν) : List (κ × ν) → List (κ × ν)
  | [] => [(key, value)]
  | (other, old) :: rest =>
    if key < other then (key, value) :: (other, old) :: rest
    else if key = other then (key, value) :: rest
    else (other, old) :: insertEntry key value rest

theorem mem_insertEntry {key : κ} {value : ν} {entries : List (κ × ν)} {entry : κ × ν}
    (hmem : entry ∈ insertEntry key value entries) : entry = (key, value) ∨ entry ∈ entries := by
  induction entries with
  | nil => exact .inl (List.mem_singleton.1 hmem)
  | cons head rest ih =>
    unfold insertEntry at hmem
    split at hmem
    · exact (List.mem_cons.1 hmem).imp_right id
    · split at hmem
      · exact (List.mem_cons.1 hmem).imp_right (List.mem_cons_of_mem _)
      · rcases List.mem_cons.1 hmem with rfl | hrest
        · exact .inr List.mem_cons_self
        · exact (ih hrest).imp_right (List.mem_cons_of_mem _)

theorem sorted_insertEntry (key : κ) (value : ν) {entries : List (κ × ν)}
    (hsorted : entries.Pairwise fun a b => a.1 < b.1) :
    (insertEntry key value entries).Pairwise fun a b => a.1 < b.1 := by
  induction entries with
  | nil => exact List.pairwise_singleton _ _
  | cons head rest ih =>
    obtain ⟨hhead, hrest⟩ := List.pairwise_cons.1 hsorted
    unfold insertEntry
    split
    · rename_i hlt
      refine List.pairwise_cons.2 ⟨?_, hsorted⟩
      intro entry hmem
      rcases List.mem_cons.1 hmem with rfl | hmem
      · exact hlt
      · exact hlt.trans (hhead entry hmem)
    · rename_i hnlt
      split
      · rename_i heq
        exact List.pairwise_cons.2 ⟨fun entry hmem => heq ▸ hhead entry hmem, hrest⟩
      · rename_i hne
        refine List.pairwise_cons.2 ⟨?_, ih hrest⟩
        intro entry hmem
        rcases mem_insertEntry hmem with rfl | hmem
        · exact lt_of_le_of_ne (not_lt.1 hnlt) (Ne.symm hne)
        · exact hhead entry hmem

def insert (map : SortedMap κ ν) (key : κ) (value : ν) : SortedMap κ ν :=
  ⟨insertEntry key value map.entries, sorted_insertEntry key value map.sorted⟩

theorem insertEntry_insertEntry_self (key : κ) (value later : ν) (entries : List (κ × ν)) :
    insertEntry key later (insertEntry key value entries) = insertEntry key later entries := by
  induction entries with
  | nil => simp [insertEntry]
  | cons head rest ih =>
    obtain ⟨other, old⟩ := head
    by_cases hlt : key < other
    · simp [insertEntry, hlt]
    · by_cases heq : key = other
      · simp [insertEntry, heq]
      · simp [insertEntry, hlt, heq, ih]

/-- The later of two insertions under one key is what stays. -/
theorem insert_insert_self (map : SortedMap κ ν) (key : κ) (value later : ν) :
    (map.insert key value).insert key later = map.insert key later :=
  SortedMap.ext (insertEntry_insertEntry_self key value later map.entries)

/-! ## Lookup -/

def get? (map : SortedMap κ ν) (key : κ) : Option ν := map.entries.lookup key

theorem get?_eq_find? (map : SortedMap κ ν) (key : κ) :
    map.get? key = (map.entries.find? fun entry => decide (entry.1 = key)).map Prod.snd := by
  unfold get?
  induction map.entries with
  | nil => rfl
  | cons entry rest ih =>
    rw [List.find?_cons, List.lookup_cons]
    by_cases hkey : key = entry.1
    · subst hkey
      simp
    · rw [beq_eq_false_iff_ne.2 hkey, decide_eq_false (Ne.symm hkey)]
      exact ih

theorem get?_eq_some {map : SortedMap κ ν} {key : κ} {value : ν} : map.get? key = some value ↔ (key, value) ∈ map.entries := by
  obtain ⟨entries, sorted⟩ := map
  unfold get?
  dsimp only
  induction entries with
  | nil => simp
  | cons head rest ih =>
    obtain ⟨hhead, hrest⟩ := List.pairwise_cons.1 sorted
    obtain ⟨other, old⟩ := head
    rw [List.lookup_cons, List.mem_cons]
    by_cases hkey : key = other
    · subst hkey
      rw [beq_self_eq_true]
      constructor
      · rintro ⟨⟩
        exact .inl rfl
      · rintro (hsame | hmem)
        · cases hsame
          rfl
        · exact absurd (hhead _ hmem) (lt_irrefl _)
    · rw [beq_eq_false_iff_ne.2 hkey]
      dsimp only
      rw [ih hrest]
      constructor
      · exact .inr
      · rintro (hsame | hmem)
        · cases hsame
          exact absurd rfl hkey
        · exact hmem

theorem mem_insertEntry_self (key : κ) (value : ν) (entries : List (κ × ν)) :
    (key, value) ∈ insertEntry key value entries := by
  induction entries with
  | nil => exact List.mem_cons_self
  | cons head rest ih =>
    unfold insertEntry
    split
    · exact List.mem_cons_self
    · split
      · exact List.mem_cons_self
      · exact List.mem_cons_of_mem _ ih

theorem mem_insertEntry_of_ne {key : κ} {value : ν} {entries : List (κ × ν)} {entry : κ × ν} (hne : entry.1 ≠ key) :
    entry ∈ insertEntry key value entries ↔ entry ∈ entries := by
  constructor
  · intro hmem
    rcases mem_insertEntry hmem with rfl | hmem
    · exact absurd rfl hne
    · exact hmem
  · intro hmem
    induction entries with
    | nil => cases hmem
    | cons head rest ih =>
      unfold insertEntry
      split
      · exact List.mem_cons_of_mem _ hmem
      · split
        · rename_i heq
          rcases List.mem_cons.1 hmem with rfl | hmem
          · exact absurd heq.symm hne
          · exact List.mem_cons_of_mem _ hmem
        · rcases List.mem_cons.1 hmem with rfl | hmem
          · exact List.mem_cons_self
          · exact List.mem_cons_of_mem _ (ih hmem)

@[simp] theorem get?_insert_self (map : SortedMap κ ν) (key : κ) (value : ν) :
    (map.insert key value).get? key = some value :=
  get?_eq_some.2 (mem_insertEntry_self key value map.entries)

theorem get?_insert_of_ne (map : SortedMap κ ν) {key other : κ} (value : ν) (hne : other ≠ key) :
    (map.insert key value).get? other = map.get? other := by
  apply Option.ext
  intro found
  rw [get?_eq_some, get?_eq_some]
  exact mem_insertEntry_of_ne hne

/-! ## Building a map -/

/-- The map after inserting all entries, in order. -/
def ofList (entries : List (κ × ν)) : SortedMap κ ν := entries.foldl (fun map entry => map.insert entry.1 entry.2) empty

theorem insertEntry_last {key : κ} (value : ν) {entries : List (κ × ν)} (hlast : ∀ entry ∈ entries, entry.1 < key) :
    insertEntry key value entries = entries ++ [(key, value)] := by
  induction entries with
  | nil => rfl
  | cons head rest ih =>
    have hhead := hlast head List.mem_cons_self
    rw [insertEntry, if_neg (not_lt.2 hhead.le), if_neg (ne_of_gt hhead),
      ih fun entry hmem => hlast entry (List.mem_cons_of_mem _ hmem), List.cons_append]

theorem entries_foldl_insert {entries : List (κ × ν)} {map : SortedMap κ ν}
    (hsorted : (map.entries ++ entries).Pairwise fun a b => a.1 < b.1) :
    (entries.foldl (fun map entry => map.insert entry.1 entry.2) map).entries = map.entries ++ entries := by
  induction entries generalizing map with
  | nil => exact (List.append_nil _).symm
  | cons entry rest ih =>
    have hlast : insertEntry entry.1 entry.2 map.entries = map.entries ++ [entry] :=
      insertEntry_last entry.2 fun other hmem => (List.pairwise_append.1 hsorted).2.2 other hmem entry List.mem_cons_self
    have hmap : (map.insert entry.1 entry.2).entries = map.entries ++ [entry] := hlast
    rw [List.foldl_cons, ih (by rw [hmap, List.append_assoc]; exact hsorted), hmap, List.append_assoc]
    rfl

/-- A map is built again from its own entries. -/
@[simp] theorem ofList_entries (map : SortedMap κ ν) : ofList map.entries = map := by
  apply ext
  exact @entries_foldl_insert _ _ _ map.entries empty map.sorted

theorem ofList_concat (entries : List (κ × ν)) (entry : κ × ν) :
    ofList (entries ++ [entry]) = (ofList entries).insert entry.1 entry.2 := by
  rw [ofList, List.foldl_append]
  rfl

/-- The last entry of a key counts. -/
theorem get?_ofList {entries : List (κ × ν)} {key : κ} {value : ν} : (ofList entries).get? key = some value ↔
    ∃ before after, entries = before ++ (key, value) :: after ∧ key ∉ after.map Prod.fst := by
  induction entries using List.reverseRecOn with
  | nil => simp [ofList, empty, get?]
  | append_singleton entries entry ih =>
    obtain ⟨last, written⟩ := entry
    rw [ofList_concat]
    by_cases hkey : key = last
    · subst hkey
      rw [get?_insert_self]
      constructor
      · rintro ⟨⟩
        exact ⟨entries, [], rfl, List.not_mem_nil⟩
      · rintro ⟨before, after, hsplit, hafter⟩
        cases after using List.reverseRecOn with
        | nil =>
          have hlast := (List.append_inj' hsplit rfl).2
          cases hlast
          rfl
        | append_singleton after final =>
          rw [← List.cons_append, ← List.append_assoc] at hsplit
          have hlast := (List.append_inj' hsplit rfl).2
          cases hlast
          simp at hafter
    · rw [get?_insert_of_ne _ _ hkey, ih]
      constructor
      · rintro ⟨before, after, rfl, hafter⟩
        exact ⟨before, after ++ [(last, written)], by simp, by simp [hafter, hkey]⟩
      · rintro ⟨before, after, hsplit, hafter⟩
        cases after using List.reverseRecOn with
        | nil =>
          have hlast := (List.append_inj' hsplit rfl).2
          cases hlast
          exact absurd rfl hkey
        | append_singleton after final =>
          rw [← List.cons_append, ← List.append_assoc] at hsplit
          obtain ⟨hinit, -⟩ := List.append_inj' hsplit rfl
          exact ⟨before, after, hinit, by simp at hafter; simpa using hafter.1⟩

theorem mem_keys_ofList {entries : List (κ × ν)} {key : κ} :
    key ∈ (ofList entries).entries.map Prod.fst ↔ key ∈ entries.map Prod.fst := by
  induction entries using List.reverseRecOn with
  | nil => simp [ofList, empty]
  | append_singleton entries entry ih =>
    rw [ofList_concat, List.map_append, List.mem_append, List.map_singleton, List.mem_singleton, ← ih]
    by_cases hkey : key = entry.1
    · refine iff_of_true ?_ (.inr hkey)
      exact List.mem_map.2 ⟨_, mem_insertEntry_self entry.1 entry.2 _, hkey.symm⟩
    · simp only [List.mem_map, hkey, or_false]
      constructor
      · rintro ⟨found, hmem, rfl⟩
        exact ⟨found, (mem_insertEntry_of_ne hkey).1 hmem, rfl⟩
      · rintro ⟨found, hmem, rfl⟩
        exact ⟨found, (mem_insertEntry_of_ne hkey).2 hmem, rfl⟩

theorem length_le_one {map : SortedMap κ ν} :
    map.entries.length ≤ 1 ↔ ∀ key ∈ map.entries.map Prod.fst, ∀ other ∈ map.entries.map Prod.fst, key = other := by
  obtain ⟨entries, sorted⟩ := map
  dsimp only
  constructor
  · intro hlength key hkey other hother
    rcases entries with _ | ⟨entry, _ | ⟨second, rest⟩⟩
    · cases hkey
    · exact (List.mem_singleton.1 hkey).trans (List.mem_singleton.1 hother).symm
    · simp at hlength
  · intro hsame
    rcases entries with _ | ⟨first, _ | ⟨second, rest⟩⟩
    · exact Nat.zero_le 1
    · exact Nat.le_refl 1
    · have hlt := (List.pairwise_cons.1 sorted).1 second List.mem_cons_self
      exact absurd (hsame first.1 (by simp) second.1 (by simp)) hlt.ne

/-- A map has at most one entry when only one key was inserted. -/
theorem length_ofList_le_one {entries : List (κ × ν)} :
    (ofList entries).entries.length ≤ 1 ↔ ∀ key ∈ entries.map Prod.fst, ∀ other ∈ entries.map Prod.fst, key = other := by
  rw [length_le_one]
  constructor
  · exact fun hsame key hkey other hother => hsame key (mem_keys_ofList.2 hkey) other (mem_keys_ofList.2 hother)
  · exact fun hsame key hkey other hother => hsame key (mem_keys_ofList.1 hkey) other (mem_keys_ofList.1 hother)

theorem perm_insertEntry {key : κ} (value : ν) {entries : List (κ × ν)} (hnew : key ∉ entries.map Prod.fst) :
    (insertEntry key value entries).Perm ((key, value) :: entries) := by
  induction entries with
  | nil => exact List.Perm.refl _
  | cons head rest ih =>
    simp only [List.map_cons, List.mem_cons, not_or] at hnew
    unfold insertEntry
    split
    · exact List.Perm.refl _
    · rw [if_neg hnew.1]
      exact ((ih hnew.2).cons head).trans (List.Perm.swap _ _ _)

/-- Entries of different keys all stay. -/
theorem perm_ofList {entries : List (κ × ν)} (hnodup : (entries.map Prod.fst).Nodup) :
    (ofList entries).entries.Perm entries := by
  induction entries using List.reverseRecOn with
  | nil => exact List.Perm.refl _
  | append_singleton entries entry ih =>
    rw [List.map_append, List.nodup_append] at hnodup
    obtain ⟨hinit, -, hdisjoint⟩ := hnodup
    have hnew : entry.1 ∉ (ofList entries).entries.map Prod.fst :=
      fun hmem => hdisjoint _ (mem_keys_ofList.1 hmem) entry.1 (by simp) rfl
    rw [ofList_concat]
    exact (perm_insertEntry entry.2 hnew).trans (((ih hinit).cons entry).trans (List.perm_append_singleton _ _).symm)

end SortedMap

end Serde
