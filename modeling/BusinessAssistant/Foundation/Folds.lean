/-
# Folds and maps that may fail, and sorting related lists

A fold in `Except` keeps what each of its turns keeps, and a map in `Except` has the
images of all items. Two lists related element by element, by a relation the turns
and the order respect, fold and sort alike.
-/

import BusinessAssistant.Foundation.Members
import Mathlib.Data.List.Forall2
import Mathlib.Data.List.Perm.Basic
import Mathlib.Data.List.Sort

namespace BusinessAssistant.Foundation.Folds

universe u v w

variable {α : Type u} {β : Type v} {ε : Type w}

/-- A fold that may fail keeps what each turn keeps. -/
theorem foldlM_keeps {P : β → Prop} {turn : β → α → Except ε β} (items : List α)
    {initial final : β}
    (hturn : ∀ value item next, item ∈ items → P value → turn value item = .ok next → P next)
    (hinitial : P initial) (hfold : items.foldlM turn initial = .ok final) : P final := by
  induction items generalizing initial with
  | nil =>
      cases hfold
      exact hinitial
  | cons item rest ih =>
      rw [List.foldlM_cons] at hfold
      cases hitem : turn initial item with
      | error failure =>
          rw [hitem] at hfold
          cases hfold
      | ok next =>
          rw [hitem] at hfold
          refine ih ?_ (hturn initial item next List.mem_cons_self hinitial hitem) hfold
          intro value other later hother
          exact hturn value other later (List.mem_cons_of_mem _ hother)

/-- A fold succeeds where each turn does, when that and the next value do not depend on
the turns before. -/
theorem foldlM_eq_ok_iff {turn : β → α → Except ε β} {next : β → α → β} {Defined : α → Prop}
    (hturn : ∀ value item final,
      turn value item = .ok final ↔ Defined item ∧ final = next value item)
    {items : List α} {initial final : β} :
    items.foldlM turn initial = .ok final ↔
      (∀ item ∈ items, Defined item) ∧ final = items.foldl next initial := by
  induction items generalizing initial with
  | nil =>
      simp only [List.foldlM_nil, List.foldl_nil, List.not_mem_nil, false_imp_iff, implies_true,
        true_and]
      exact ⟨fun hpure => by cases hpure; rfl, fun hsame => hsame ▸ rfl⟩
  | cons item rest ih =>
      rw [List.foldlM_cons, List.foldl_cons, List.forall_mem_cons]
      constructor
      · intro hfold
        cases hitem : turn initial item with
        | error failure =>
            rw [hitem] at hfold
            cases hfold
        | ok value =>
            rw [hitem] at hfold
            obtain ⟨hdefined, rfl⟩ := (hturn initial item value).mp hitem
            obtain ⟨hrest, hfinal⟩ := ih.mp hfold
            exact ⟨⟨hdefined, hrest⟩, hfinal⟩
      · intro hall
        obtain ⟨⟨hdefined, hrest⟩, hfinal⟩ := hall
        rw [(hturn initial item (next initial item)).mpr ⟨hdefined, rfl⟩]
        exact ih.mpr ⟨hrest, hfinal⟩

/-- Folds of related lists agree when related items take the same turn. -/
theorem foldlM_forall₂ {R : α → α → Prop} {turn turn' : β → α → Except ε β}
    {items items' : List α} (hitems : List.Forall₂ R items items')
    (hturn : ∀ value item item', R item item' → turn value item = turn' value item')
    (initial : β) : items.foldlM turn initial = items'.foldlM turn' initial := by
  induction hitems generalizing initial with
  | nil => rfl
  | cons hitem _ ih =>
      rw [List.foldlM_cons, List.foldlM_cons, hturn initial _ _ hitem]
      apply congrArg
      funext next
      exact ih next

theorem exists_of_forall₂ {R : α → β → Prop} {items : List α} {values : List β}
    (h : List.Forall₂ R items values) {item : α} (hitem : item ∈ items) :
    ∃ value ∈ values, R item value := by
  induction h with
  | nil => cases hitem
  | cons hfirst _ ih =>
      rcases List.mem_cons.mp hitem with rfl | hitem
      · exact ⟨_, List.mem_cons_self, hfirst⟩
      · obtain ⟨value, hvalue, hrelated⟩ := ih hitem
        exact ⟨value, List.mem_cons_of_mem _ hvalue, hrelated⟩

/-- A map that may fail succeeds with the images of all items. -/
theorem mapM_eq_ok_iff {γ : Type*} {image : α → Except ε γ} {items : List α} {images : List γ} :
    items.mapM image = .ok images ↔
      List.Forall₂ (fun item value => image item = .ok value) items images := by
  induction items generalizing images with
  | nil =>
      rw [List.forall₂_nil_left_iff]
      constructor
      · intro hmap
        cases hmap
        rfl
      · intro himages
        rw [himages]
        rfl
  | cons item rest ih =>
      rw [List.mapM_cons, List.forall₂_cons_left_iff]
      constructor
      · intro hmap
        cases hitem : image item with
        | error failure =>
            rw [hitem] at hmap
            cases hmap
        | ok value =>
            rw [hitem] at hmap
            cases hrest : rest.mapM image with
            | error failure =>
                rw [hrest] at hmap
                cases hmap
            | ok values =>
                rw [hrest] at hmap
                cases hmap
                exact ⟨value, values, rfl, ih.mp hrest, rfl⟩
      · intro himages
        obtain ⟨value, values, hitem, hrest, himages⟩ := himages
        rw [himages, hitem, ih.mpr hrest]
        rfl

/-- It succeeds where each item has an image. -/
theorem exists_mapM_iff {γ : Type*} {image : α → Except ε γ} {items : List α} :
    (∃ images, items.mapM image = .ok images) ↔ ∀ item ∈ items, ∃ value, image item = .ok value := by
  simp only [mapM_eq_ok_iff]
  induction items with
  | nil => simp
  | cons item rest ih =>
      rw [List.forall_mem_cons, ← ih]
      constructor
      · intro himages
        obtain ⟨images, himages⟩ := himages
        obtain ⟨value, values, hitem, hrest, -⟩ := List.forall₂_cons_left_iff.mp himages
        exact ⟨⟨value, hitem⟩, ⟨values, hrest⟩⟩
      · intro hboth
        obtain ⟨⟨value, hitem⟩, ⟨values, hrest⟩⟩ := hboth
        exact ⟨value :: values, .cons hitem hrest⟩

/-- A loop of checks passes just when every item does. -/
theorem forM_eq_ok_iff {check : α → Except ε PUnit} {items : List α} :
    items.forM check = .ok ⟨⟩ ↔ ∀ item ∈ items, check item = .ok ⟨⟩ := by
  induction items with
  | nil => exact iff_of_true rfl nofun
  | cons item rest ih =>
      have hcons : (item :: rest).forM check = check item >>= fun _ => rest.forM check := rfl
      rw [hcons, List.forall_mem_cons, ← ih]
      cases check item with
      | error failure => simp [bind, Except.bind]
      | ok passed => simp [bind, Except.bind]

/-- Where each item has the image of a function, so has the list. -/
theorem mapM_eq_map {γ : Type*} {image : α → Except ε γ} {value : α → γ} {items : List α}
    (himage : ∀ item ∈ items, image item = .ok (value item)) :
    items.mapM image = .ok (items.map value) := by
  rw [mapM_eq_ok_iff, List.forall₂_map_right_iff, List.forall₂_same]
  exact himage

/-- Items that are written each in its place are read back from what was written, in
whatever order it comes. -/
theorem exists_mapM_of_perm {γ : Type*} {write : Nat → α → γ} {read : γ → Except ε α}
    (hread : ∀ place item, read (write place item) = .ok item) {items : List α} {rows : List γ}
    (hrows : rows.Perm (items.mapIdx write)) :
    ∃ values, rows.mapM read = .ok values ∧ values.Perm items := by
  have hwritten : List.Forall₂ (fun row value => read row = .ok value) (items.mapIdx write) items := by
    clear hrows
    induction items generalizing write with
    | nil => exact .nil
    | cons item rest ih =>
        rw [List.mapIdx_cons]
        exact .cons (hread 0 item) (ih fun place other => hread (place + 1) other)
  obtain ⟨values, hvalues, hperm⟩ := List.perm_comp_forall₂ hrows hwritten
  exact ⟨values, mapM_eq_ok_iff.mpr hvalues, hperm⟩

/-- Images that are mapped on afterwards. -/
theorem mapM_map_eq_ok_iff {γ δ : Type*} {image : α → Except ε γ} {next : α → γ → δ}
    {items : List α} {results : List δ} :
    items.mapM (fun item => (image item).map (next item)) = .ok results ↔
      ∃ values, List.Forall₂ (fun item value => image item = .ok value) items values ∧
        results = List.zipWith next items values := by
  rw [mapM_eq_ok_iff]
  induction items generalizing results with
  | nil =>
      rw [List.forall₂_nil_left_iff]
      simp
  | cons item rest ih =>
      rw [List.forall₂_cons_left_iff]
      constructor
      · intro hresults
        obtain ⟨result, later, hresult, hlater, rfl⟩ := hresults
        obtain ⟨values, hvalues, rfl⟩ := ih.mp hlater
        cases hitem : image item with
        | error failure =>
            rw [hitem] at hresult
            cases hresult
        | ok value =>
            rw [hitem] at hresult
            cases hresult
            exact ⟨value :: values, .cons hitem hvalues, rfl⟩
      · intro hvalues
        obtain ⟨values, hvalues, rfl⟩ := hvalues
        obtain ⟨value, later, hvalue, hlater, rfl⟩ := List.forall₂_cons_left_iff.mp hvalues
        refine ⟨next item value, List.zipWith next rest later, ?_, ih.mpr ⟨later, hlater, rfl⟩, rfl⟩
        rw [hvalue]
        rfl

/-- Images of one list are related when the images of each item are. -/
theorem forall₂_filterMap {γ : Type*} {R : γ → γ → Prop} {image image' : α → Option γ}
    {items : List α} (himage : ∀ item ∈ items, Option.Rel R (image item) (image' item)) :
    List.Forall₂ R (items.filterMap image) (items.filterMap image') := by
  induction items with
  | nil => exact .nil
  | cons item rest ih =>
      have hrest := ih fun other hother => himage other (List.mem_cons_of_mem _ hother)
      have hitem := himage item List.mem_cons_self
      cases hfirst : image item with
      | none =>
          rw [hfirst] at hitem
          cases hsecond : image' item with
          | none =>
              rw [List.filterMap_cons_none hfirst, List.filterMap_cons_none hsecond]
              exact hrest
          | some value =>
              rw [hsecond] at hitem
              cases hitem
      | some value =>
          rw [hfirst] at hitem
          cases hsecond : image' item with
          | none =>
              rw [hsecond] at hitem
              cases hitem
          | some value' =>
              rw [hsecond] at hitem
              cases hitem with
              | some hvalue =>
                  rw [List.filterMap_cons_some hfirst, List.filterMap_cons_some hsecond]
                  exact .cons hvalue hrest

section Raising

variable {γ δ : Type u} {P : ε → Prop}

/-- What the computation raises, if it does, is one of `P`. -/
def RaisesOnly (P : ε → Prop) (computation : Except ε γ) : Prop :=
  ∀ error, computation = .error error → P error

theorem RaisesOnly.ok (value : γ) : RaisesOnly P (.ok value : Except ε γ) := nofun

theorem RaisesOnly.error {error : ε} (h : P error) :
    RaisesOnly P (.error error : Except ε γ) := fun _ herror => Except.error.inj herror ▸ h

theorem RaisesOnly.bind {computation : Except ε γ} {f : γ → Except ε δ}
    (h : RaisesOnly P computation) (hf : ∀ value, RaisesOnly P (f value)) :
    RaisesOnly P (computation >>= f) := by
  cases computation with
  | error raised => exact .error (h raised rfl)
  | ok value => exact hf value

theorem RaisesOnly.mapError {ε' : Type} {Q : ε' → Prop} {translate : ε → ε'}
    {computation : Except ε γ} (htranslate : ∀ error, P error → Q (translate error))
    (h : RaisesOnly P computation) : RaisesOnly Q (Except.mapError translate computation) := by
  cases computation with
  | error raised => exact .error (htranslate raised (h raised rfl))
  | ok value => exact .ok value

theorem RaisesOnly.ite {condition : Prop} [Decidable condition] {first second : Except ε γ}
    (hfirst : RaisesOnly P first) (hsecond : RaisesOnly P second) :
    RaisesOnly P (if condition then first else second) := by
  split
  · exact hfirst
  · exact hsecond

theorem RaisesOnly.dite {condition : Prop} [Decidable condition] {first : condition → Except ε γ}
    {second : ¬ condition → Except ε γ} (hfirst : ∀ h, RaisesOnly P (first h))
    (hsecond : ∀ h, RaisesOnly P (second h)) :
    RaisesOnly P (if h : condition then first h else second h) := by
  split
  · exact hfirst _
  · exact hsecond _

theorem RaisesOnly.mapM {image : α → Except ε γ} (h : ∀ item, RaisesOnly P (image item))
    (items : List α) : RaisesOnly P (items.mapM image) := by
  induction items with
  | nil => exact .ok []
  | cons item rest ih =>
      rw [List.mapM_cons]
      exact (h item).bind fun first => ih.bind fun others => .ok (first :: others)

end Raising

section Sorting

variable {r r' : α → α → Prop} [DecidableRel r] [DecidableRel r'] {R : α → α → Prop}

theorem forall₂_orderedInsert
    (horder : ∀ a a' b b', R a a' → R b b' → (r a b ↔ r' a' b')) {a a' : α} (ha : R a a')
    {items items' : List α} (hitems : List.Forall₂ R items items') :
    List.Forall₂ R (items.orderedInsert r a) (items'.orderedInsert r' a') := by
  induction hitems with
  | nil => exact .cons ha .nil
  | @cons b b' rest rest' hb hrest ih =>
      rw [List.orderedInsert_cons, List.orderedInsert_cons]
      by_cases hle : r a b
      · rw [if_pos hle, if_pos ((horder a a' b b' ha hb).mp hle)]
        exact .cons ha (.cons hb hrest)
      · rw [if_neg hle, if_neg (mt (horder a a' b b' ha hb).mpr hle)]
        exact .cons hb ih

/-- Related lists sort to related lists when the relation respects the order. -/
theorem forall₂_insertionSort
    (horder : ∀ a a' b b', R a a' → R b b' → (r a b ↔ r' a' b')) {items items' : List α}
    (hitems : List.Forall₂ R items items') :
    List.Forall₂ R (items.insertionSort r) (items'.insertionSort r') := by
  induction hitems with
  | nil => exact .nil
  | cons ha _ ih => exact forall₂_orderedInsert horder ha ih

end Sorting

end BusinessAssistant.Foundation.Folds
