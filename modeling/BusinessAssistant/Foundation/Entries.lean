/-
# Dictionaries as lists of entries

A dictionary is its entries in insertion order, a key at most once. Two of them
are equal as dictionaries when every key has the same value in both; the order of
the entries does not count.
-/

import BusinessAssistant.Foundation.Members
import Mathlib.Data.List.Nodup

namespace BusinessAssistant.Foundation.Entries

universe u v w

variable {κ : Type u} {ν : Type v} [BEq κ]

/-- `entries[key] = value` -/
def set (key : κ) (value : ν) : List (κ × ν) → List (κ × ν)
  | [] => [(key, value)]
  | entry :: rest =>
      if entry.1 == key then (key, value) :: rest else entry :: set key value rest

/-- `key in entries` -/
def Has (entries : List (κ × ν)) (key : κ) : Prop := key ∈ entries.map Prod.fst

instance [LawfulBEq κ] (entries : List (κ × ν)) (key : κ) : Decidable (Has entries key) :=
  inferInstanceAs (Decidable (key ∈ entries.map Prod.fst))

/-- Equality as dictionaries. -/
def Same (first second : List (κ × ν)) : Prop :=
  ∀ key, first.lookup key = second.lookup key

variable {entries : List (κ × ν)} {key other : κ} {value : ν}

theorem lookup_cons_ite {entry : κ × ν} {rest : List (κ × ν)} :
    (entry :: rest).lookup key = if key == entry.1 then some entry.2 else rest.lookup key := by
  rw [List.lookup_cons]
  cases key == entry.1 <;> rfl

section Lawful

variable [LawfulBEq κ]

theorem lookup_set :
    (set key value entries).lookup other =
      if other == key then some value else entries.lookup other := by
  induction entries with
  | nil => rw [set, lookup_cons_ite]
  | cons entry rest ih =>
      by_cases hentry : entry.1 = key
      · rw [set, if_pos (beq_iff_eq.mpr hentry), lookup_cons_ite, lookup_cons_ite, hentry]
        split <;> rfl
      · rw [set, if_neg (fun heq => hentry (beq_iff_eq.mp heq)), lookup_cons_ite, lookup_cons_ite,
          ih]
        by_cases hkey : other = key
        · have hne : ¬ (other == entry.1) = true := fun heq =>
            hentry ((beq_iff_eq.mp heq).symm.trans hkey)
          rw [if_neg hne, if_pos (beq_iff_eq.mpr hkey), if_pos (beq_iff_eq.mpr hkey)]
        · have hne : ¬ (other == key) = true := fun heq => hkey (beq_iff_eq.mp heq)
          rw [if_neg hne, if_neg hne]

/-- A dictionary has a key when looking it up finds something. -/
theorem has_iff_lookup : Has entries key ↔ (entries.lookup key).isSome = true := by
  rw [Has, List.lookup_isSome_iff]
  constructor
  · intro hmem
    obtain ⟨entry, hentry, hkey⟩ := List.mem_map.mp hmem
    exact ⟨entry, hentry, by simp [hkey]⟩
  · rintro ⟨entry, hentry, hkey⟩
    exact List.mem_map.mpr ⟨entry, hentry, (beq_iff_eq.mp hkey).symm⟩

theorem has_set : Has (set key value entries) other ↔ other = key ∨ Has entries other := by
  rw [has_iff_lookup, has_iff_lookup, lookup_set]
  by_cases hkey : other = key
  · simp [hkey]
  · simp [hkey]

theorem nodup_set (hkeys : (entries.map Prod.fst).Nodup) :
    ((set key value entries).map Prod.fst).Nodup := by
  induction entries with
  | nil => exact List.nodup_singleton key
  | cons entry rest ih =>
      rw [List.map_cons, List.nodup_cons] at hkeys
      rw [set]
      split
      · rename_i heq
        rw [List.map_cons, List.nodup_cons, ← beq_iff_eq.mp heq]
        exact hkeys
      · rename_i hne
        rw [List.map_cons, List.nodup_cons]
        refine ⟨fun hmem => ?_, ih hkeys.2⟩
        rcases has_set.mp hmem with hkey | hrest
        · exact hne (beq_iff_eq.mpr hkey)
        · exact hkeys.1 hrest

/-- An entry is the value of its key where no key occurs twice. -/
theorem mem_iff_lookup (hkeys : (entries.map Prod.fst).Nodup) :
    (key, value) ∈ entries ↔ entries.lookup key = some value := by
  induction entries with
  | nil => simp
  | cons entry rest ih =>
      rw [List.map_cons, List.nodup_cons] at hkeys
      rw [List.mem_cons, ih hkeys.2, lookup_cons_ite]
      by_cases hkey : key = entry.1
      · have hnone : rest.lookup key = none := by
          rw [← Option.not_isSome_iff_eq_none, ← has_iff_lookup, hkey]
          exact hkeys.1
        rw [if_pos (beq_iff_eq.mpr hkey), hnone, Option.some.injEq, Prod.ext_iff, hkey]
        simp [eq_comm]
      · have hne : ¬ (key == entry.1) = true := fun heq => hkey (beq_iff_eq.mp heq)
        rw [if_neg hne, Prod.ext_iff]
        simp [hkey]

/-! ## Filling a dictionary -/

section Filling

variable {α : Type w} (keyOf : α → κ) (valueOf : α → ν)

/-- `for item in items: entries[key(item)] = value(item)` -/
def fill (entries : List (κ × ν)) (items : List α) : List (κ × ν) :=
  items.foldl (fun filled item => set (keyOf item) (valueOf item) filled) entries

theorem nodup_fill (items : List α) (hkeys : (entries.map Prod.fst).Nodup) :
    ((fill keyOf valueOf entries items).map Prod.fst).Nodup := by
  induction items generalizing entries with
  | nil => exact hkeys
  | cons item rest ih => exact ih (nodup_set hkeys)

theorem has_fill (items : List α) :
    Has (fill keyOf valueOf entries items) key ↔ key ∈ items.map keyOf ∨ Has entries key := by
  induction items generalizing entries with
  | nil => simp [fill]
  | cons item rest ih =>
      rw [fill, List.foldl_cons, ← fill, ih, has_set, List.map_cons, List.mem_cons, or_left_comm,
        or_assoc]

/-- A filled dictionary has the value of the last item with a key. -/
theorem lookup_fill (items : List α) :
    (fill keyOf valueOf entries items).lookup key =
      ((items.reverse.find? fun item => key == keyOf item).map valueOf).or
        (entries.lookup key) := by
  induction items generalizing entries with
  | nil => rfl
  | cons item rest ih =>
      rw [fill, List.foldl_cons, ← fill, ih, lookup_set, List.reverse_cons, List.find?_append]
      cases rest.reverse.find? fun item => key == keyOf item with
      | some last => rfl
      | none =>
          rw [Option.map_none, Option.none_or, Option.none_or, List.find?_cons]
          cases key == keyOf item <;> rfl

theorem lookup_fill_of_not_mem {items : List α} (hkey : key ∉ items.map keyOf) :
    (fill keyOf valueOf entries items).lookup key = entries.lookup key := by
  have hnone : (items.reverse.find? fun item => key == keyOf item) = none := by
    rw [List.find?_eq_none]
    intro item hitem heq
    exact hkey (List.mem_map.mpr ⟨item, List.mem_reverse.mp hitem, (beq_iff_eq.mp heq).symm⟩)
  rw [lookup_fill, hnone, Option.map_none, Option.none_or]

/-- The last of two items with one key does not matter where no key occurs twice. -/
theorem lookup_fill_of_mem {items : List α} (hkeys : (items.map keyOf).Nodup) {item : α}
    (hitem : item ∈ items) :
    (fill keyOf valueOf entries items).lookup (keyOf item) = some (valueOf item) := by
  cases hfind : items.reverse.find? fun other => keyOf item == keyOf other with
  | none =>
      rw [List.find?_eq_none] at hfind
      exact absurd (beq_self_eq_true (keyOf item)) (hfind item (List.mem_reverse.mpr hitem))
  | some last =>
      have hlast := List.mem_reverse.mp (List.mem_of_find?_eq_some hfind)
      have hfound := List.find?_some hfind
      have hkey := beq_iff_eq.mp hfound
      rw [lookup_fill, hfind, List.inj_on_of_nodup_map hkeys hitem hlast hkey]
      rfl

/-- The order of items with different keys does not matter. -/
theorem lookup_fill_perm {items items' : List α} (hperm : items.Perm items')
    (hkeys : (items.map keyOf).Nodup) {entries' : List (κ × ν)}
    (hentries : entries.lookup key = entries'.lookup key) :
    (fill keyOf valueOf entries items).lookup key =
      (fill keyOf valueOf entries' items').lookup key := by
  by_cases hkey : key ∈ items.map keyOf
  · obtain ⟨item, hitem, rfl⟩ := List.mem_map.mp hkey
    have hkeys' := (hperm.map keyOf).nodup_iff.mp hkeys
    rw [lookup_fill_of_mem keyOf valueOf hkeys hitem,
      lookup_fill_of_mem keyOf valueOf hkeys' (hperm.mem_iff.mp hitem)]
  · have hkey' : key ∉ items'.map keyOf := fun hmem => hkey ((hperm.map keyOf).mem_iff.mpr hmem)
    rw [lookup_fill_of_not_mem keyOf valueOf hkey, lookup_fill_of_not_mem keyOf valueOf hkey',
      hentries]

/-- What a filled dictionary holds was there before, or is the value of an item. -/
theorem forall_lookup_fill {P : κ → ν → Prop} (items : List α)
    (hentries : ∀ value, entries.lookup key = some value → P key value)
    (hitems : ∀ item ∈ items, P (keyOf item) (valueOf item)) {value : ν}
    (hvalue : (fill keyOf valueOf entries items).lookup key = some value) : P key value := by
  rw [lookup_fill] at hvalue
  cases hfind : items.reverse.find? fun item => key == keyOf item with
  | none =>
      rw [hfind] at hvalue
      exact hentries value hvalue
  | some item =>
      rw [hfind] at hvalue
      cases hvalue
      have hfound := List.find?_some hfind
      rw [beq_iff_eq.mp hfound]
      exact hitems item (List.mem_reverse.mp (List.mem_of_find?_eq_some hfind))

end Filling

/-- Only the keys that occur can make a difference. -/
theorem same_iff_keys {second : List (κ × ν)} :
    Same entries second ↔
      ∀ key ∈ (entries ++ second).map Prod.fst, entries.lookup key = second.lookup key := by
  constructor
  · intro hsame key _
    exact hsame key
  · intro hkeys key
    by_cases hkey : key ∈ (entries ++ second).map Prod.fst
    · exact hkeys key hkey
    · rw [List.map_append, List.mem_append, not_or] at hkey
      have hnone : ∀ {other : List (κ × ν)}, key ∉ other.map Prod.fst →
          other.lookup key = none := by
        intro other hother
        rw [← Option.not_isSome_iff_eq_none, ← has_iff_lookup]
        exact hother
      rw [hnone hkey.1, hnone hkey.2]

instance decidableSame [DecidableEq ν] (first second : List (κ × ν)) :
    Decidable (Same first second) :=
  decidable_of_iff _ same_iff_keys.symm

end Lawful

end BusinessAssistant.Foundation.Entries
