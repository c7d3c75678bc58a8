/-
# Tables as lists of rows

A table is its rows in insertion order. `update` is `UPDATE ... WHERE`: it
rewrites the rows a condition selects and leaves the rest. The lemmas say which
rows a table holds after an update or an insert, and what that does to the
columns, the counts and the part of the table a reader can see.
-/

import BusinessAssistant.Foundation.Members
import Mathlib.Data.List.Nodup
import Mathlib.Data.List.Count
import Mathlib.Data.List.Perm.Basic

namespace BusinessAssistant.Foundation.Table

universe u v

variable {α : Type u} {κ : Type v}

/-- `UPDATE table SET change WHERE selected`. -/
def update (selected : α → Prop) [DecidablePred selected] (change : α → α) (rows : List α) :
    List α :=
  rows.map fun row => if selected row then change row else row

section Update

variable {selected : α → Prop} [DecidablePred selected] {change : α → α} {rows : List α}

@[simp]
theorem update_nil : update selected change [] = [] := rfl

@[simp]
theorem update_cons (row : α) :
    update selected change (row :: rows) =
      (if selected row then change row else row) :: update selected change rows := rfl

/-- A row of the updated table is a changed selected row or an untouched other. -/
theorem mem_update {row : α} :
    row ∈ update selected change rows ↔
      (∃ old ∈ rows, selected old ∧ change old = row) ∨ row ∈ rows ∧ ¬ selected row := by
  simp only [update, List.mem_map]
  constructor
  · rintro ⟨old, hold, rfl⟩
    by_cases hselected : selected old
    · exact .inl ⟨old, hold, hselected, by rw [if_pos hselected]⟩
    · exact .inr (by rw [if_neg hselected]; exact ⟨hold, hselected⟩)
  · rintro (⟨old, hold, hselected, rfl⟩ | ⟨hrow, hselected⟩)
    · exact ⟨old, hold, if_pos hselected⟩
    · exact ⟨row, hrow, if_neg hselected⟩

theorem mem_update_of_selected {old : α} (hold : old ∈ rows) (hselected : selected old) :
    change old ∈ update selected change rows :=
  mem_update.mpr (.inl ⟨old, hold, hselected, rfl⟩)

theorem mem_update_of_not_selected {row : α} (hrow : row ∈ rows) (hselected : ¬ selected row) :
    row ∈ update selected change rows :=
  mem_update.mpr (.inr ⟨hrow, hselected⟩)

/-- What holds of all rows holds of all rows after a change that does not bear on
it, and the other way round. -/
theorem forall_mem_update {P : α → Prop} (hkeep : ∀ row, P (change row) ↔ P row) :
    (∀ row ∈ update selected change rows, P row) ↔ ∀ row ∈ rows, P row := by
  constructor
  · intro hall row hrow
    by_cases hselected : selected row
    · exact (hkeep row).mp (hall _ (mem_update_of_selected hrow hselected))
    · exact hall _ (mem_update_of_not_selected hrow hselected)
  · intro hall row hrow
    rcases mem_update.mp hrow with ⟨old, hold, _, rfl⟩ | ⟨hold, _⟩
    · exact (hkeep old).mpr (hall old hold)
    · exact hall row hold

/-- A property of all rows that the change keeps is a property of all rows after
it. -/
theorem forall_update {P : α → Prop} (hall : ∀ row ∈ rows, P row)
    (hkeep : ∀ row, P row → P (change row)) : ∀ row ∈ update selected change rows, P row := by
  intro row hrow
  rcases mem_update.mp hrow with ⟨old, hold, _, rfl⟩ | ⟨hold, _⟩
  · exact hkeep old (hall old hold)
  · exact hall row hold

/-- A row with a property is still there after a change that keeps the property. -/
theorem exists_mem_update {P : α → Prop} (hexists : ∃ row ∈ rows, P row)
    (hkeep : ∀ row ∈ rows, P row → selected row → P (change row)) :
    ∃ row ∈ update selected change rows, P row := by
  obtain ⟨row, hrow, hP⟩ := hexists
  by_cases hselected : selected row
  · exact ⟨change row, mem_update_of_selected hrow hselected, hkeep row hrow hP hselected⟩
  · exact ⟨row, mem_update_of_not_selected hrow hselected, hP⟩

/-- Two updates of the same rows are one. -/
theorem update_update {again : α → α} (hkeep : ∀ row, selected row → selected (change row)) :
    update selected again (update selected change rows) =
      update selected (fun row => again (change row)) rows := by
  simp only [update, List.map_map]
  apply List.map_congr_left
  intro row _
  by_cases hselected : selected row
  · simp only [Function.comp_apply, if_pos hselected, if_pos (hkeep row hselected)]
  · simp only [Function.comp_apply, if_neg hselected]

/-- A column the change does not write keeps its values, in order. -/
theorem map_update (column : α → κ) (hkeep : ∀ row, column (change row) = column row) :
    (update selected change rows).map column = rows.map column := by
  simp only [update, List.map_map]
  apply List.map_congr_left
  intro row _
  simp only [Function.comp_apply]
  split
  · exact hkeep row
  · rfl

/-- An update that selects no row changes nothing. -/
theorem update_eq_self (hnone : ∀ row ∈ rows, ¬ selected row) :
    update selected change rows = rows := by
  induction rows with
  | nil => rfl
  | cons row rows ih =>
      rw [update_cons, if_neg (hnone row List.mem_cons_self),
        ih fun other hother => hnone other (List.mem_cons_of_mem _ hother)]

/-- An update changes nothing exactly when the rows it selects are as it would make them. -/
theorem update_eq_self_iff :
    update selected change rows = rows ↔ ∀ row ∈ rows, selected row → change row = row := by
  constructor
  · intro hsame row hrow hselected
    have hall := List.map_inj_left.mp (hsame.trans (List.map_id rows).symm) row hrow
    simpa only [hselected, if_true, id] using hall
  · intro hkeep
    refine Eq.trans (List.map_congr_left fun row hrow => ?_) (List.map_id rows)
    split
    · next hselected => exact hkeep row hrow hselected
    · rfl

/-- Counting after an update never exceeds the count before it when the change
only takes rows out of the counted set. -/
theorem countP_update_le {counted : α → Bool}
    (hdrop : ∀ row ∈ rows, selected row → counted (change row) = true → counted row = true) :
    (update selected change rows).countP counted ≤ rows.countP counted := by
  induction rows with
  | nil => simp
  | cons row rows ih =>
      have htail := ih fun other hother => hdrop other (List.mem_cons_of_mem _ hother)
      rw [update_cons, List.countP_cons, List.countP_cons]
      by_cases hselected : selected row
      · rw [if_pos hselected]
        have hhead := hdrop row List.mem_cons_self hselected
        by_cases hcounted : counted (change row) = true
        · simp only [hcounted, hhead hcounted, if_true]; omega
        · rw [if_neg hcounted]; omega
      · rw [if_neg hselected]; omega

/-- Counting after the row with a unique identifier is rewritten: the old row
leaves the count and the new one enters it. -/
theorem countP_update_one {ι : Type*} [DecidableEq ι] {id : α → ι} {row : α}
    (hids : (rows.map id).Nodup) (hrow : row ∈ rows) (counted : α → Bool) :
    (update (fun other => id other = id row) change rows).countP counted +
        (if counted row = true then 1 else 0) =
      rows.countP counted + if counted (change row) = true then 1 else 0 := by
  induction rows with
  | nil => cases hrow
  | cons head rest ih =>
      rw [List.map_cons, List.nodup_cons] at hids
      rw [update_cons, List.countP_cons, List.countP_cons]
      by_cases hhead : id head = id row
      · have hsame : row = head := by
          rcases List.mem_cons.mp hrow with rfl | hrest
          · rfl
          · exact absurd (List.mem_map.mpr ⟨row, hrest, hhead.symm⟩) hids.1
        have hrest : update (fun other => id other = id row) change rest = rest := by
          apply update_eq_self
          intro other hother hid
          exact hids.1 (List.mem_map.mpr ⟨other, hother, hid.trans hhead.symm⟩)
        rw [if_pos hhead, hrest, hsame]
        omega
      · have hrest : row ∈ rest := by
          rcases List.mem_cons.mp hrow with rfl | hrest
          · exact absurd rfl hhead
          · exact hrest
        have htail := ih hids.2 hrest
        rw [if_neg hhead]
        omega

/-- Rows outside the updated part are seen unchanged. -/
theorem filter_update_of_not_visible {visible : α → Bool}
    (hselected : ∀ row ∈ rows, selected row → visible row = false ∧ visible (change row) = false) :
    (update selected change rows).filter visible = rows.filter visible := by
  induction rows with
  | nil => rfl
  | cons row rows ih =>
      have htail := ih fun other hother => hselected other (List.mem_cons_of_mem _ hother)
      rw [update_cons]
      by_cases hrow : selected row
      · obtain ⟨hold, hnew⟩ := hselected row List.mem_cons_self hrow
        rw [if_pos hrow, List.filter_cons_of_neg (by simp [hnew]),
          List.filter_cons_of_neg (by simp [hold]), htail]
      · rw [if_neg hrow, List.filter_cons, List.filter_cons, htail]

/-- Updating and then looking at the visible rows is updating what is visible,
when the change moves no row into or out of sight. -/
theorem filter_update {visible : α → Bool}
    (hkeep : ∀ row, visible (change row) = visible row) :
    (update selected change rows).filter visible =
      update selected change (rows.filter visible) := by
  induction rows with
  | nil => rfl
  | cons row rows ih =>
      have hsame : visible (if selected row then change row else row) = visible row := by
        split
        · exact hkeep row
        · rfl
      rw [update_cons, List.filter_cons, List.filter_cons, hsame, ih]
      split
      · rw [update_cons]
      · rfl

/-- An update of rows of one owner leaves the rows of every other. -/
theorem filter_ne_update [DecidableEq κ] {owner : α → κ} {value : κ}
    (hselected : ∀ row ∈ rows, selected row → owner row = value)
    (hkeep : ∀ row, owner (change row) = owner row) :
    (update selected change rows).filter (fun row => owner row ≠ value) =
      rows.filter fun row => owner row ≠ value := by
  apply filter_update_of_not_visible
  intro row hrow hrowSelected
  have howner := hselected row hrow hrowSelected
  simp [howner, hkeep row]

/-- An update that changes no owner updates what one owner has. -/
theorem filter_eq_update [DecidableEq κ] {owner : α → κ} {value : κ}
    (hkeep : ∀ row, owner (change row) = owner row) :
    (update selected change rows).filter (fun row => owner row = value) =
      update selected change (rows.filter fun row => owner row = value) := by
  apply filter_update
  intro row
  rw [hkeep row]

end Update

/-! ## Inserts -/

section Append

variable {rows : List α} {row new : α}

theorem mem_append_row : row ∈ rows ++ [new] ↔ row ∈ rows ∨ row = new := by
  rw [List.mem_append, List.mem_singleton]

theorem forall_append_row {P : α → Prop} (hall : ∀ row ∈ rows, P row) (hnew : P new) :
    ∀ row ∈ rows ++ [new], P row := by
  intro row hrow
  rcases mem_append_row.mp hrow with hrow | rfl
  · exact hall row hrow
  · exact hnew

/-- An inserted row leaves the rows of every other owner. -/
theorem filter_ne_append_row [DecidableEq κ] {owner : α → κ} {value : κ}
    (hnew : owner new = value) :
    (rows ++ [new]).filter (fun row => owner row ≠ value) =
      rows.filter fun row => owner row ≠ value := by
  rw [List.filter_append, List.filter_singleton]
  simp [hnew]

end Append

/-! ## Rows that go on -/

section Written

variable {Keeps : α → α → Prop} {New : α → Prop} {rows rows' : List α}

/-- Each row of a table goes on as some row of a later one, and each row there is
new or comes from one. -/
structure Written (Keeps : α → α → Prop) (New : α → Prop) (rows rows' : List α) : Prop where
  kept : ∀ row ∈ rows, ∃ row' ∈ rows', Keeps row row'
  origin : ∀ row' ∈ rows', New row' ∨ ∃ row ∈ rows, Keeps row row'

theorem Written.refl (hrefl : ∀ row, Keeps row row) (rows : List α) :
    Written Keeps New rows rows where
  kept row hrow := ⟨row, hrow, hrefl row⟩
  origin row hrow := .inr ⟨row, hrow, hrefl row⟩

/-- An update writes the rows it selects. -/
theorem Written.update {selected : α → Prop} [DecidablePred selected] {change : α → α}
    (hrefl : ∀ row, Keeps row row)
    (hchange : ∀ row ∈ rows, selected row → Keeps row (change row)) :
    Written Keeps New rows (update selected change rows) where
  kept row hrow := by
    by_cases hselected : selected row
    · exact ⟨_, mem_update_of_selected hrow hselected, hchange row hrow hselected⟩
    · exact ⟨row, mem_update_of_not_selected hrow hselected, hrefl row⟩
  origin row' hrow' := by
    rcases mem_update.mp hrow' with ⟨row, hrow, hselected, rfl⟩ | ⟨hrow, _⟩
    · exact .inr ⟨row, hrow, hchange row hrow hselected⟩
    · exact .inr ⟨row', hrow, hrefl row'⟩

/-- A row is inserted. -/
theorem Written.insert (h : Written Keeps New rows rows') {row : α} (hnew : New row) :
    Written Keeps New rows (rows' ++ [row]) where
  kept old hold := by
    obtain ⟨row', hrow', hkeeps⟩ := h.kept old hold
    exact ⟨row', List.mem_append_left _ hrow', hkeeps⟩
  origin row' hrow' := by
    rcases mem_append_row.mp hrow' with hold | rfl
    · exact h.origin row' hold
    · exact .inl hnew

end Written

/-! ## Keys -/

section Keys

variable {key : α → κ} {rows : List α}

/-- With unique keys, rows of one key are one row. -/
theorem eq_of_key_eq (hunique : (rows.map key).Nodup) {first second : α}
    (hfirst : first ∈ rows) (hsecond : second ∈ rows) (hkey : key first = key second) :
    first = second :=
  List.inj_on_of_nodup_map hunique hfirst hsecond hkey

/-- A change that does not write the key keeps the keys unique. -/
theorem nodup_update {selected : α → Prop} [DecidablePred selected] {change : α → α}
    (hunique : (rows.map key).Nodup) (hkeep : ∀ row, key (change row) = key row) :
    ((update selected change rows).map key).Nodup := by
  rw [map_update key hkeep]
  exact hunique

/-- With unique keys an update by key changes one row. -/
theorem mem_update_key [DecidableEq κ] (hunique : (rows.map key).Nodup) {row other : α}
    {change : α → α} (hrow : row ∈ rows) :
    other ∈ update (fun old => key old = key row) change rows ↔
      other = change row ∨ other ∈ rows ∧ key other ≠ key row := by
  rw [mem_update]
  constructor
  · rintro (⟨old, hold, hkey, rfl⟩ | hother)
    · exact .inl (by rw [eq_of_key_eq hunique hold hrow hkey])
    · exact .inr hother
  · rintro (rfl | hother)
    · exact .inl ⟨row, hrow, rfl, rfl⟩
    · exact .inr hother

/-- Appending a row with a new key keeps the keys unique. -/
theorem nodup_append_row (hunique : (rows.map key).Nodup) {row : α}
    (hnew : ∀ other ∈ rows, key other ≠ key row) : ((rows ++ [row]).map key).Nodup := by
  rw [List.map_append, List.nodup_append]
  refine ⟨hunique, by simp, ?_⟩
  intro a ha b hb
  obtain ⟨other, hother, rfl⟩ := List.mem_map.mp ha
  rw [List.map_singleton, List.mem_singleton] at hb
  exact hb ▸ hnew other hother

/-- With unique keys, the image of the rows of one key is that of one row. -/
theorem filterMap_key {β : Type*} [DecidableEq κ] (hunique : (rows.map key).Nodup) {row : α}
    (hrow : row ∈ rows) (image : α → β) :
    (rows.filterMap fun other => if key other = key row then some (image other) else none) =
      [image row] := by
  induction rows with
  | nil => cases hrow
  | cons first rows ih =>
      rw [List.map_cons, List.nodup_cons] at hunique
      rcases List.mem_cons.mp hrow with rfl | hrow
      · have hnone : ∀ other ∈ rows, key other ≠ key row := by
          intro other hother hkey
          exact hunique.1 (hkey ▸ List.mem_map_of_mem hother)
        have hrest : (rows.filterMap fun other =>
            if key other = key row then some (image other) else none) = [] :=
          List.filterMap_eq_nil_iff.mpr fun other hother => if_neg (hnone other hother)
        simp only [List.filterMap_cons, if_pos, hrest]
      · have hkey : key first ≠ key row := by
          intro hkey
          exact hunique.1 (hkey ▸ List.mem_map_of_mem hrow)
        simp only [List.filterMap_cons, if_neg hkey]
        exact ih hunique.2 hrow

/-- With unique keys, what is left when a row is taken out has other keys. -/
theorem key_ne_of_mem_eraseIdx (hunique : (rows.map key).Nodup) {index : Nat} {row other : α}
    (hrow : rows[index]? = some row) (hother : other ∈ rows.eraseIdx index) :
    key other ≠ key row := by
  intro hkey
  obtain ⟨place, hplace, hfound⟩ := List.mem_eraseIdx_iff_getElem?.mp hother
  have hlength : place < (rows.map key).length := by
    rw [List.length_map]
    exact (List.getElem?_eq_some_iff.mp hfound).1
  have hsame : (rows.map key)[place]? = (rows.map key)[index]? := by
    rw [List.getElem?_map, List.getElem?_map, hfound, hrow, Option.map_some, Option.map_some, hkey]
  exact hplace ((List.getElem?_inj hlength hunique).mp hsame)

/-- Replacing a row by one of the same key keeps the keys. -/
theorem map_set_of_key_eq {index : Nat} {row new : α} (hrow : rows[index]? = some row)
    (hkey : key new = key row) : (rows.set index new).map key = rows.map key := by
  obtain ⟨hindex, rfl⟩ := List.getElem?_eq_some_iff.mp hrow
  apply List.ext_getElem (by simp)
  intro place hplace hplace'
  simp only [List.getElem_map, List.getElem_set]
  split
  · rename_i hsame
    subst hsame
    exact hkey
  · rfl

/-- Rows that all have one key are at most one row. -/
theorem countP_le_one {counted : α → Bool} (hunique : (rows.map key).Nodup)
    (hsame : ∀ first ∈ rows, ∀ second ∈ rows, counted first = true → counted second = true →
      key first = key second) : rows.countP counted ≤ 1 := by
  induction rows with
  | nil => simp
  | cons row rows ih =>
      rw [List.map_cons, List.nodup_cons] at hunique
      have htail := ih hunique.2 fun first hfirst second hsecond =>
        hsame first (List.mem_cons_of_mem _ hfirst) second (List.mem_cons_of_mem _ hsecond)
      by_cases hrow : counted row = true
      · have hnone : rows.countP counted = 0 := by
          apply List.countP_eq_zero.mpr
          intro other hother hcounted
          have hkey := hsame row List.mem_cons_self other (List.mem_cons_of_mem _ hother) hrow
            hcounted
          exact hunique.1 (List.mem_map.mpr ⟨other, hother, hkey.symm⟩)
        simp [hnone, hrow]
      · rw [List.countP_cons, if_neg hrow]
        exact htail

/-- Rewriting one column of the row with a unique identifier to a new value keeps
that column's values distinct. -/
theorem nodup_update_one {ι : Type*} {id : α → ι} [DecidableEq ι] {identifier : ι} {value : κ}
    {change : α → α} (hids : (rows.map id).Nodup) (hunique : (rows.map key).Nodup)
    (hnew : ∀ row ∈ rows, key row ≠ value) (hchange : ∀ row, key (change row) = value) :
    ((update (fun row => id row = identifier) change rows).map key).Nodup := by
  induction rows with
  | nil => exact List.nodup_nil
  | cons row rows ih =>
      rw [List.map_cons, List.nodup_cons] at hids hunique
      have htail := ih hids.2 hunique.2 fun other hother => hnew other (List.mem_cons_of_mem _ hother)
      rw [update_cons, List.map_cons, List.nodup_cons]
      refine ⟨?_, htail⟩
      by_cases hrow : id row = identifier
      · -- No later row is changed, and none had the new value.
        have hrest : update (fun row => id row = identifier) change rows = rows := by
          apply update_eq_self
          intro other hother hid
          exact hids.1 (List.mem_map.mpr ⟨other, hother, hid.trans hrow.symm⟩)
        rw [if_pos hrow, hrest, hchange, List.mem_map]
        rintro ⟨other, hother, hvalue⟩
        exact hnew other (List.mem_cons_of_mem _ hother) hvalue
      · rw [if_neg hrow, List.mem_map]
        rintro ⟨other, hother, hkey⟩
        rcases mem_update.mp hother with ⟨old, _, _, rfl⟩ | ⟨hold, _⟩
        · exact hnew row List.mem_cons_self (hkey.symm.trans (hchange old))
        · exact hunique.1 (List.mem_map.mpr ⟨other, hold, hkey⟩)

end Keys

/-! ## Two updates by one change -/

section Twice

variable {first second : α → Prop} [DecidablePred first] [DecidablePred second] {change : α → α}
  {rows : List α}

theorem update_congr (hsame : ∀ row ∈ rows, first row ↔ second row) :
    update first change rows = update second change rows := by
  apply List.map_congr_left
  intro row hrow
  simp only [hsame row hrow]

/-- When what the first changed is not selected again, both are one update. -/
theorem update_update_or (hdisjoint : ∀ row ∈ rows, first row → ¬ second (change row)) :
    update second change (update first change rows) =
      update (fun row => first row ∨ second row) change rows := by
  rw [update, update, update, List.map_map]
  apply List.map_congr_left
  intro row hrow
  by_cases hfirst : first row
  · simp [hfirst, hdisjoint row hrow hfirst]
  · simp [hfirst]

/-- One condition is met by as many rows as one that it implies exactly when every row
that meets the weaker meets it. -/
theorem countP_eq_iff_of_imp (himp : ∀ row ∈ rows, first row → second row) :
    rows.countP (fun row => first row) = rows.countP (fun row => second row) ↔
      ∀ row ∈ rows, second row → first row := by
  induction rows with
  | nil => simp
  | cons row rows ih =>
      have htail := ih fun other hother => himp other (List.mem_cons_of_mem _ hother)
      have hhead := himp row List.mem_cons_self
      have hle : rows.countP (fun row => first row) ≤ rows.countP fun row => second row :=
        List.countP_mono_left fun other hother hother' => by
          simpa using himp other (List.mem_cons_of_mem _ hother) (by simpa using hother')
      rw [List.forall_mem_cons, ← htail, List.countP_cons, List.countP_cons]
      by_cases hfirst : first row
      · simp [hfirst, hhead hfirst]
      · by_cases hsecond : second row
        · simp only [hfirst, hsecond, decide_false, decide_true, if_true]
          simp only [Bool.false_eq_true, if_false, true_imp_iff, false_and, iff_false]
          omega
        · simp [hfirst, hsecond]

/-- Rows of one condition less some of them, and others instead. -/
theorem countP_exchange {left other : α → Prop} [DecidablePred left] [DecidablePred other]
    (hleft : ∀ row, left row → first row) (hother : ∀ row, other row → ¬ first row)
    (rows : List α) :
    rows.countP (fun row => first row ∧ ¬ left row ∨ other row) +
        rows.countP (fun row => left row) =
      rows.countP (fun row => first row) + rows.countP fun row => other row := by
  induction rows with
  | nil => rfl
  | cons row rows ih =>
      simp only [List.countP_cons]
      by_cases hfirst : first row
      · have hnot : ¬ other row := fun h => hother row h hfirst
        by_cases hrow : left row
        · simp only [hfirst, hrow, hnot, not_true, and_false, or_false, decide_true, decide_false,
            if_true, Bool.false_eq_true, if_false]
          omega
        · simp only [hfirst, hrow, hnot, not_false_eq_true, and_true, or_false, decide_true,
            decide_false, if_true, Bool.false_eq_true, if_false]
          omega
      · have hnot : ¬ left row := fun h => hfirst (hleft row h)
        simp only [hfirst, hnot, false_and, false_or, decide_false, Bool.false_eq_true, if_false]
        omega

end Twice

/-! ## Rows that did not stay -/

section Changed

variable [DecidableEq α]

/-- How many rows of a table are no longer there as they were. -/
def countChanged (before after : List α) : Nat := before.countP fun row => row ∉ after

theorem countChanged_filter (deleted : α → Prop) [DecidablePred deleted] (rows : List α) :
    countChanged rows (rows.filter fun row => ¬ deleted row) =
      rows.countP fun row => deleted row := by
  apply List.countP_congr
  intro row hrow
  simp [hrow]

/-- With unique keys, a row that is changed is not the image of another. -/
theorem countChanged_map {key : α → κ} {rows : List α} (hunique : (rows.map key).Nodup)
    {change : α → α} (hkeep : ∀ row, key (change row) = key row) :
    countChanged rows (rows.map change) = rows.countP fun row => change row ≠ row := by
  apply List.countP_congr
  intro row hrow
  simp only [decide_eq_true_eq, List.mem_map, not_iff_not]
  constructor
  · rintro ⟨other, hother, hchange⟩
    have hkey : key other = key row := by rw [← hkeep other, hchange]
    rw [← eq_of_key_eq hunique hother hrow hkey, hchange, eq_of_key_eq hunique hother hrow hkey]
  · intro hsame
    exact ⟨row, hrow, hsame⟩

end Changed

/-! ## Lookups -/

/-- A lookup for rows of a visible kind sees only the visible part. -/
theorem find?_filter_of_imp {wanted visible : α → Bool} {rows : List α}
    (himp : ∀ row ∈ rows, wanted row = true → visible row = true) :
    (rows.filter visible).find? wanted = rows.find? wanted := by
  induction rows with
  | nil => rfl
  | cons row rows ih =>
      have htail := ih fun other hother => himp other (List.mem_cons_of_mem _ hother)
      by_cases hvisible : visible row = true
      · rw [List.filter_cons_of_pos hvisible, List.find?_cons, List.find?_cons, htail]
      · have hwanted : wanted row = false := by
          by_contra h
          exact hvisible (himp row List.mem_cons_self (by simpa using h))
        rw [List.filter_cons_of_neg hvisible, htail, List.find?_cons, hwanted]

/-- Two tables with the same visible part answer a lookup for visible rows
alike. -/
theorem find?_congr_of_filter {wanted visible : α → Bool} {first second : List α}
    (hfirst : ∀ row ∈ first, wanted row = true → visible row = true)
    (hsecond : ∀ row ∈ second, wanted row = true → visible row = true)
    (hagree : first.filter visible = second.filter visible) :
    first.find? wanted = second.find? wanted := by
  rw [← find?_filter_of_imp hfirst, hagree, find?_filter_of_imp hsecond]

/-- Two tables with the same visible part select the same visible rows. -/
theorem filter_congr_of_filter {wanted visible : α → Bool} {first second : List α}
    (himp : ∀ row, wanted row = true → visible row = true)
    (hagree : first.filter visible = second.filter visible) :
    first.filter wanted = second.filter wanted := by
  have hpart : ∀ rows : List α, (rows.filter visible).filter wanted = rows.filter wanted := by
    intro rows
    rw [List.filter_filter]
    apply List.filter_congr
    intro row _
    cases hwanted : wanted row with
    | true => rw [himp row hwanted]; rfl
    | false => rfl
  rw [← hpart first, hagree, hpart second]

/-- A visible row of one table is a row of the other. -/
theorem mem_of_filter_eq {visible : α → Bool} {first second : List α}
    (hagree : first.filter visible = second.filter visible) {row : α} (hrow : row ∈ first)
    (hvisible : visible row = true) : row ∈ second := by
  have hmem : row ∈ second.filter visible := hagree ▸ List.mem_filter.mpr ⟨hrow, hvisible⟩
  exact (List.mem_filter.mp hmem).1

/-- The images of a table are those of its visible part and of the rest. -/
theorem filterMap_parts_perm {β : Type*} (image : α → Option β) (visible : α → Bool)
    (rows : List α) :
    ((rows.filter visible).filterMap image ++
      (rows.filter fun row => !visible row).filterMap image).Perm (rows.filterMap image) := by
  rw [← List.filterMap_append]
  exact (List.filter_append_perm visible rows).filterMap image

/-- Tables with the same visible part and, up to order, the same images have, up
to order, the same images of what is not visible. -/
theorem perm_image_of_not_visible {β : Type*} {image : α → Option β} {visible : α → Bool}
    {first second : List α} (hagree : first.filter visible = second.filter visible)
    (hperm : (first.filterMap image).Perm (second.filterMap image)) :
    ((first.filter fun row => !visible row).filterMap image).Perm
      ((second.filter fun row => !visible row).filterMap image) := by
  have hboth := (filterMap_parts_perm image visible first).trans
    (hperm.trans (filterMap_parts_perm image visible second).symm)
  rw [hagree] at hboth
  exact (List.perm_append_left_iff _).mp hboth

/-- The other way round: tables whose visible parts are the same, and whose other
parts have the same images up to order, have the same images up to order. -/
theorem perm_image_of_parts {β : Type*} {image : α → Option β} {visible : α → Bool}
    {first second : List α} (hagree : first.filter visible = second.filter visible)
    (hperm : ((first.filter fun row => !visible row).filterMap image).Perm
      ((second.filter fun row => !visible row).filterMap image)) :
    (first.filterMap image).Perm (second.filterMap image) := by
  refine (filterMap_parts_perm image visible first).symm.trans
    (List.Perm.trans ?_ (filterMap_parts_perm image visible second))
  rw [hagree]
  exact (List.perm_append_left_iff _).mpr hperm

/-- The row a lookup finds is a row of the table that meets the condition. -/
theorem of_find? {wanted : α → Prop} [DecidablePred wanted] {rows : List α} {row : α}
    (hfound : rows.find? (fun row => wanted row) = some row) : row ∈ rows ∧ wanted row :=
  ⟨List.mem_of_find?_eq_some hfound, by simpa using List.find?_some hfound⟩

/-- A lookup by a unique key finds the row that has it. -/
theorem find?_eq_some_of_unique {wanted : α → Prop} [DecidablePred wanted] {rows : List α}
    {row : α} (hrow : row ∈ rows) (hwanted : wanted row)
    (hunique : ∀ other ∈ rows, wanted other → other = row) :
    rows.find? (fun row => wanted row) = some row := by
  cases hfound : rows.find? (fun row => wanted row) with
  | none =>
      have := List.find?_eq_none.mp hfound row hrow
      simp [hwanted] at this
  | some other =>
      obtain ⟨hother, hother'⟩ := of_find? hfound
      rw [hunique other hother hother']

/-! ## Lookups by a key -/

section KeyLookups

variable [DecidableEq κ] {key : α → κ} {rows : List α}

/-- An update that does not write the key changes the row a lookup finds, if it selects it. -/
theorem find?_update_key {selected : α → Prop} [DecidablePred selected] {change : α → α}
    (hkeep : ∀ row, key (change row) = key row) (value : κ) :
    (update selected change rows).find? (fun row => key row = value) =
      (rows.find? fun row => key row = value).map fun row =>
        if selected row then change row else row := by
  rw [update, List.find?_map]
  congr 2
  funext row
  simp only [Function.comp_apply]
  split
  · rw [hkeep]
  · rfl

/-- A lookup after an insert of a row with a new key. -/
theorem find?_append_key {new : α} (hnew : rows.find? (fun row => key row = key new) = none)
    (value : κ) :
    (rows ++ [new]).find? (fun row => key row = value) =
      if value = key new then some new else rows.find? fun row => key row = value := by
  rw [List.find?_append]
  split
  · next hvalue =>
      rw [hvalue, hnew]
      simp
  · next hvalue => simp [Ne.symm hvalue]

/-- A lookup after a deletion finds the row that was there, if it is still visible. -/
theorem find?_filter_key (hunique : (rows.map key).Nodup) (visible : α → Bool) (value : κ) :
    (rows.filter visible).find? (fun row => key row = value) =
      (rows.find? fun row => key row = value).filter visible := by
  induction rows with
  | nil => rfl
  | cons row rows ih =>
      rw [List.map_cons, List.nodup_cons] at hunique
      have htail := ih hunique.2
      by_cases hvalue : key row = value
      · rw [List.find?_cons_of_pos (by simpa using hvalue)]
        have hrest : (rows.filter visible).find? (fun row => key row = value) = none := by
          rw [List.find?_eq_none]
          intro other hother hsame
          have hkey : key other = key row := (of_decide_eq_true hsame).trans hvalue.symm
          exact hunique.1 (hkey ▸ List.mem_map_of_mem (List.mem_filter.mp hother).1)
        cases hvisible : visible row with
        | true => simp [Option.filter, hvisible, hvalue]
        | false => simp [Option.filter, hvisible, hrest]
      · rw [List.find?_cons_of_neg (by simpa using hvalue), ← htail]
        cases hvisible : visible row with
        | true => simp [hvisible, hvalue]
        | false => simp [hvisible]

end KeyLookups

end BusinessAssistant.Foundation.Table
