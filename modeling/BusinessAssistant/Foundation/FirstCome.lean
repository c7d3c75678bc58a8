/-
# First come, first served

Items take turns. A turn adds a value for each key its item can serve and that
has no value yet. Through any nesting of loops the keys stay distinct, the keys
served are those some item can serve, and each value was added by the first item
that can serve its key.
-/

import BusinessAssistant.Foundation.Members
import Mathlib.Data.List.Nodup

namespace BusinessAssistant.Foundation.FirstCome

universe u v w x

variable {σ : Type u} {κ : Type v} {ι : Type w} {ε : Type x} {key : σ → κ}

/-- A stretch of turns adds a value, of the kind `Made`, for every key it is
`Able` to serve that had none before. -/
structure Serves (key : σ → κ) (Able : κ → Prop) (Made : σ → Prop) (before after : List σ) :
    Prop where
  kept : ∀ value ∈ before, value ∈ after
  served : ∀ k, Able k → ∃ value ∈ after, key value = k
  added : ∀ value ∈ after, value ∈ before ∨
    (∀ earlier ∈ before, key earlier ≠ key value) ∧ Able (key value) ∧ Made value
  distinct : (before.map key).Nodup → (after.map key).Nodup

namespace Serves

variable {Able Able' : κ → Prop} {Made : σ → Prop} {before middle after : List σ}

/-- Nothing need be added when every key in reach has a value. -/
theorem refl (hserved : ∀ k, Able k → ∃ value ∈ before, key value = k) :
    Serves key Able Made before before where
  kept := fun _ hvalue => hvalue
  served := hserved
  added := fun _ hvalue => .inl hvalue
  distinct := id

/-- A value whose key is new is appended. -/
theorem append {value : σ} (hnew : ∀ earlier ∈ before, key earlier ≠ key value)
    (hmade : Made value) : Serves key (· = key value) Made before (before ++ [value]) where
  kept := fun _ hearlier => List.mem_append_left _ hearlier
  served := by
    intro k hk
    exact ⟨value, List.mem_append_right _ (List.mem_singleton.mpr rfl), hk.symm⟩
  added := by
    intro other hother
    rcases List.mem_append.mp hother with hother | hother
    · exact .inl hother
    · rw [List.mem_singleton.mp hother]
      exact .inr ⟨hnew, rfl, hmade⟩
  distinct := by
    intro hdistinct
    rw [List.map_append, List.map_singleton]
    apply hdistinct.append (List.nodup_singleton _)
    intro k hbefore hvalue
    obtain ⟨earlier, hearlier, rfl⟩ := List.mem_map.mp hbefore
    exact hnew earlier hearlier (List.mem_singleton.mp hvalue)

theorem congr (hable : ∀ k, Able k ↔ Able' k) (h : Serves key Able Made before after) :
    Serves key Able' Made before after where
  kept := h.kept
  served := fun k hk => h.served k ((hable k).mpr hk)
  added := by
    intro value hvalue
    rcases h.added value hvalue with hbefore | ⟨hnew, hserved, hmade⟩
    · exact .inl hbefore
    · exact .inr ⟨hnew, (hable _).mp hserved, hmade⟩
  distinct := h.distinct

theorem trans (hfirst : Serves key Able Made before middle)
    (hsecond : Serves key Able' Made middle after) :
    Serves key (fun k => Able k ∨ Able' k) Made before after where
  kept := fun value hvalue => hsecond.kept value (hfirst.kept value hvalue)
  served := by
    intro k hk
    rcases hk with hk | hk
    · obtain ⟨value, hvalue, hkey⟩ := hfirst.served k hk
      exact ⟨value, hsecond.kept value hvalue, hkey⟩
    · exact hsecond.served k hk
  added := by
    intro value hvalue
    rcases hsecond.added value hvalue with hmiddle | ⟨hnew, hable, hmade⟩
    · rcases hfirst.added value hmiddle with hbefore | ⟨hnew, hable, hmade⟩
      · exact .inl hbefore
      · exact .inr ⟨hnew, .inl hable, hmade⟩
    · exact .inr ⟨fun earlier hearlier => hnew earlier (hfirst.kept earlier hearlier),
        .inr hable, hmade⟩
  distinct := fun hdistinct => hsecond.distinct (hfirst.distinct hdistinct)

/-- A loop serves what some turn of it serves. -/
theorem foldl {turn : List σ → ι → List σ} {AbleOf : ι → κ → Prop} (items : List ι)
    (hturn : ∀ values, ∀ item ∈ items, Serves key (AbleOf item) Made values (turn values item))
    (values : List σ) :
    Serves key (fun k => ∃ item ∈ items, AbleOf item k) Made values (items.foldl turn values) := by
  induction items generalizing values with
  | nil =>
      apply refl
      rintro k ⟨item, hitem, -⟩
      cases hitem
  | cons item rest ih =>
      have hfirst := hturn values item List.mem_cons_self
      have hrest := ih (fun values other hother => hturn values other (List.mem_cons_of_mem _ hother))
        (turn values item)
      rw [List.foldl_cons]
      apply (hfirst.trans hrest).congr
      intro k
      rw [List.exists_mem_cons_iff]

/-- A loop that may fail serves what some turn of it serves. -/
theorem foldlM {turn : List σ → ι → Except ε (List σ)} {AbleOf : ι → κ → Prop} (items : List ι)
    (hturn : ∀ values, ∀ item ∈ items, ∀ next, turn values item = .ok next →
      Serves key (AbleOf item) Made values next)
    {values final : List σ} (hfold : items.foldlM turn values = .ok final) :
    Serves key (fun k => ∃ item ∈ items, AbleOf item k) Made values final := by
  induction items generalizing values with
  | nil =>
      cases hfold
      apply refl
      rintro k ⟨item, hitem, -⟩
      cases hitem
  | cons item rest ih =>
      rw [List.foldlM_cons] at hfold
      cases hitem : turn values item with
      | error failure =>
          rw [hitem] at hfold
          cases hfold
      | ok next =>
          rw [hitem] at hfold
          have hfirst := hturn values item List.mem_cons_self next hitem
          have hrest := ih
            (fun values other hother => hturn values other (List.mem_cons_of_mem _ hother)) hfold
          apply (hfirst.trans hrest).congr
          intro k
          rw [List.exists_mem_cons_iff]

end Serves

/-- The outcome of taking the items in turn: every key some item can serve has
one value, added by an item that comes before all others that can serve it. -/
structure FirstServed (key : σ → κ) (le : ι → ι → Prop) (Able : ι → κ → Prop)
    (Made : ι → σ → Prop) (items : List ι) (values : List σ) : Prop where
  served : ∀ item ∈ items, ∀ k, Able item k → ∃ value ∈ values, key value = k
  first : ∀ value ∈ values, ∃ item ∈ items, Able item (key value) ∧ Made item value ∧
    ∀ other ∈ items, Able other (key value) → le item other
  distinct : (values.map key).Nodup

section FirstServed

variable {le : ι → ι → Prop} {Able : ι → κ → Prop} {Made : ι → σ → Prop}

/-- The turn of an item that no earlier one comes after. -/
theorem FirstServed.step (hrefl : ∀ item, le item item) {items : List ι} {item : ι}
    (hlast : ∀ earlier ∈ items, le earlier item) {values next : List σ}
    (h : FirstServed key le Able Made items values)
    (hturn : Serves key (Able item) (Made item) values next) :
    FirstServed key le Able Made (items ++ [item]) next where
  served := by
    intro other hother k hable
    rcases List.mem_append.mp hother with hother | hother
    · obtain ⟨value, hvalue, hkey⟩ := h.served other hother k hable
      exact ⟨value, hturn.kept value hvalue, hkey⟩
    · rw [List.mem_singleton.mp hother] at hable
      exact hturn.served k hable
  first := by
    intro value hvalue
    rcases hturn.added value hvalue with hbefore | ⟨hnew, hable, hmade⟩
    · obtain ⟨maker, hmaker, hable, hmade, hfirst⟩ := h.first value hbefore
      refine ⟨maker, List.mem_append_left _ hmaker, hable, hmade, ?_⟩
      intro other hother hother'
      rcases List.mem_append.mp hother with hother | hother
      · exact hfirst other hother hother'
      · rw [List.mem_singleton.mp hother]
        exact hlast maker hmaker
    · refine ⟨item, List.mem_append_right _ (List.mem_singleton.mpr rfl), hable, hmade, ?_⟩
      intro other hother hother'
      rcases List.mem_append.mp hother with hother | hother
      · obtain ⟨earlier, hearlier, hkey⟩ := h.served other hother _ hother'
        exact absurd hkey (hnew earlier hearlier)
      · rw [List.mem_singleton.mp hother]
        exact hrefl item
  distinct := hturn.distinct h.distinct

/-- Items taken in order serve first come, first served. -/
theorem firstServed_foldlM {turn : List σ → ι → Except ε (List σ)} (hrefl : ∀ item, le item item)
    {done items : List ι} (hordered : (done ++ items).Pairwise le)
    (hturn : ∀ values, ∀ item ∈ items, ∀ next, turn values item = .ok next →
      Serves key (Able item) (Made item) values next)
    {values final : List σ} (h : FirstServed key le Able Made done values)
    (hfold : items.foldlM turn values = .ok final) :
    FirstServed key le Able Made (done ++ items) final := by
  induction items generalizing done values with
  | nil =>
      cases hfold
      rw [List.append_nil]
      exact h
  | cons item rest ih =>
      rw [List.foldlM_cons] at hfold
      cases hitem : turn values item with
      | error failure =>
          rw [hitem] at hfold
          cases hfold
      | ok next =>
          rw [hitem] at hfold
          have hlast : ∀ earlier ∈ done, le earlier item := fun earlier hearlier =>
            (List.pairwise_append.mp hordered).2.2 earlier hearlier item List.mem_cons_self
          have hstep := h.step hrefl hlast (hturn values item List.mem_cons_self next hitem)
          rw [List.append_cons] at hordered ⊢
          exact ih hordered
            (fun values other hother => hturn values other (List.mem_cons_of_mem _ hother))
            hstep hfold

end FirstServed

end BusinessAssistant.Foundation.FirstCome
