/-
# The first of each kind

Of a list in order of preference, the first item of each kind is kept until there are
enough. What is kept leads its kind, and everything that was passed over.
-/

import BusinessAssistant.Foundation.Members
import Mathlib.Data.List.Nodup

namespace BusinessAssistant.Foundation

universe u v

variable {α : Type u} {κ : Type v} {kind : α → κ} {prefers : α → α → Prop}

/-- Items kept of a list, one of each kind, preferred to all others of it. -/
structure Leaders (kind : α → κ) (prefers : α → α → Prop) (items kept : List α) : Prop where
  sublist : kept.Sublist items
  distinct : (kept.map kind).Nodup
  leads : ∀ item ∈ items, ∃ leader ∈ kept, kind leader = kind item ∧ prefers leader item

namespace Leaders

theorem nil : Leaders kind prefers [] [] where
  sublist := List.Sublist.slnil
  distinct := List.nodup_nil
  leads _ hitem := absurd hitem List.not_mem_nil

variable {items kept : List α}

/-- An item of a kind that has a leader is passed over. -/
theorem skip (hleaders : Leaders kind prefers items kept) {item : α}
    (hkind : kind item ∈ kept.map kind) (hafter : ∀ other ∈ items, prefers other item) :
    Leaders kind prefers (items ++ [item]) kept where
  sublist := hleaders.sublist.trans (List.sublist_append_left items [item])
  distinct := hleaders.distinct
  leads := by
    intro other hother
    rcases List.mem_append.mp hother with hitems | hlast
    · exact hleaders.leads other hitems
    · rw [List.mem_singleton.mp hlast]
      obtain ⟨leader, hleader, heq⟩ := List.mem_map.mp hkind
      exact ⟨leader, hleader, heq, hafter leader (hleaders.sublist.mem hleader)⟩

/-- An item of a new kind leads it. -/
theorem keep (hleaders : Leaders kind prefers items kept) {item : α}
    (hkind : kind item ∉ kept.map kind) (hself : prefers item item) :
    Leaders kind prefers (items ++ [item]) (kept ++ [item]) where
  sublist := hleaders.sublist.append (List.Sublist.refl [item])
  distinct := by
    rw [List.map_append, List.map_singleton, ← List.concat_eq_append]
    exact hleaders.distinct.concat hkind
  leads := by
    intro other hother
    rcases List.mem_append.mp hother with hitems | hlast
    · obtain ⟨leader, hleader, heq, hprefers⟩ := hleaders.leads other hitems
      exact ⟨leader, List.mem_append_left _ hleader, heq, hprefers⟩
    · rw [List.mem_singleton.mp hlast]
      exact ⟨item, List.mem_append_right _ (List.mem_singleton_self item), rfl, hself⟩

/-- A leader is preferred to every item of its kind. -/
theorem prefers_of_kind (hleaders : Leaders kind prefers items kept) {leader item : α}
    (hleader : leader ∈ kept) (hitem : item ∈ items) (hkind : kind item = kind leader) :
    prefers leader item := by
  obtain ⟨other, hother, heq, hprefers⟩ := hleaders.leads item hitem
  have hsame : other = leader :=
    List.inj_on_of_nodup_map hleaders.distinct hother hleader (heq.trans hkind)
  rw [← hsame]
  exact hprefers

end Leaders

section Loop

variable [DecidableEq κ]

/-- Go through a list, keep what is of a new kind, and stop when there are enough. -/
def firstOfKinds (kind : α → κ) (limit : Nat) (kept : List α) : List α → List α
  | [] => kept
  | item :: rest =>
      if kind item ∈ kept.map kind then firstOfKinds kind limit kept rest
      else if (kept ++ [item]).length = limit then kept ++ [item]
      else firstOfKinds kind limit (kept ++ [item]) rest

/-- What is kept leads the part of the list that was gone through, which is all of it
unless there are enough. -/
theorem leaders_firstOfKinds (hself : ∀ item, prefers item item) {limit : Nat}
    (before : List α) {items kept : List α} (hsorted : (before ++ items).Pairwise prefers)
    (hleaders : Leaders kind prefers before kept) (hroom : kept.length < limit) :
    ∃ passed left, items = passed ++ left ∧
      Leaders kind prefers (before ++ passed) (firstOfKinds kind limit kept items) ∧
      (firstOfKinds kind limit kept items).length ≤ limit ∧
      (left = [] ∨ (firstOfKinds kind limit kept items).length = limit) := by
  induction items generalizing before kept with
  | nil =>
      refine ⟨[], [], rfl, ?_, Nat.le_of_lt hroom, .inl rfl⟩
      rw [List.append_nil]
      exact hleaders
  | cons item rest ih =>
      have hafter : ∀ other ∈ before, prefers other item := fun other hother =>
        (List.pairwise_append.mp hsorted).2.2 other hother item List.mem_cons_self
      have hshift : before ++ item :: rest = before ++ [item] ++ rest := by simp
      rw [hshift] at hsorted
      have hpassed (passed : List α) :
          before ++ item :: passed = before ++ [item] ++ passed := by simp
      rw [firstOfKinds]
      split
      · rename_i hkind
        obtain ⟨passed, left, hsplit, hrun⟩ :=
          ih (before ++ [item]) hsorted (hleaders.skip hkind hafter) hroom
        refine ⟨item :: passed, left, by rw [hsplit, List.cons_append], ?_⟩
        rw [hpassed]
        exact hrun
      rename_i hkind
      have hkept := hleaders.keep hkind (hself item)
      split
      · rename_i henough
        exact ⟨[item], rest, rfl, hkept, Nat.le_of_eq henough, .inr henough⟩
      · rename_i hmore
        have hlonger : (kept ++ [item]).length < limit := by
          rw [List.length_append, List.length_singleton] at hmore ⊢
          omega
        obtain ⟨passed, left, hsplit, hrun⟩ := ih (before ++ [item]) hsorted hkept hlonger
        refine ⟨item :: passed, left, by rw [hsplit, List.cons_append], ?_⟩
        rw [hpassed]
        exact hrun

/-- The best items of a list, one of each kind. -/
structure BestOfKinds (kind : α → κ) (prefers : α → α → Prop) (limit : Nat)
    (items best : List α) : Prop where
  sublist : best.Sublist items
  length : best.length ≤ limit
  distinct : (best.map kind).Nodup
  ofKind : ∀ leader ∈ best, ∀ item ∈ items, kind item = kind leader → prefers leader item
  ofOthers : ∀ leader ∈ best, ∀ item ∈ items, kind item ∉ best.map kind → prefers leader item
  complete : best.length < limit → ∀ item ∈ items, kind item ∈ best.map kind

/-- The loop finds the best items of a list in order of preference. -/
theorem bestOfKinds (hself : ∀ item, prefers item item) {limit : Nat} (hlimit : 0 < limit)
    {items : List α} (hsorted : items.Pairwise prefers) :
    BestOfKinds kind prefers limit items (firstOfKinds kind limit [] items) := by
  have hnone : Leaders kind prefers [] [] := Leaders.nil
  obtain ⟨passed, left, hsplit, hleaders, hlength, hend⟩ :=
    leaders_firstOfKinds hself [] hsorted hnone hlimit
  rw [List.nil_append] at hleaders
  have hlater : ∀ leader ∈ firstOfKinds kind limit [] items, ∀ item ∈ left,
      prefers leader item := by
    intro leader hleader item hitem
    rw [hsplit] at hsorted
    exact (List.pairwise_append.mp hsorted).2.2 leader (hleaders.sublist.mem hleader) item hitem
  have hkinds : ∀ item ∈ passed, kind item ∈ (firstOfKinds kind limit [] items).map kind := by
    intro item hitem
    obtain ⟨leader, hleader, heq, _⟩ := hleaders.leads item hitem
    exact List.mem_map.mpr ⟨leader, hleader, heq⟩
  have hparts : ∀ item ∈ items, item ∈ passed ∨ item ∈ left := by
    intro item hitem
    rw [hsplit] at hitem
    exact List.mem_append.mp hitem
  exact
    { sublist := hleaders.sublist.trans (hsplit ▸ List.sublist_append_left passed left)
      length := hlength
      distinct := hleaders.distinct
      ofKind := fun leader hleader item hitem hkind =>
        (hparts item hitem).elim
          (fun hpassed => hleaders.prefers_of_kind hleader hpassed hkind)
          (hlater leader hleader item)
      ofOthers := fun leader hleader item hitem hkind =>
        (hparts item hitem).elim (fun hpassed => absurd (hkinds item hpassed) hkind)
          (hlater leader hleader item)
      complete := fun hfew item hitem => by
        rcases hend with hend | henough
        · rcases hparts item hitem with hpassed | hleft
          · exact hkinds item hpassed
          · rw [hend] at hleft
            exact absurd hleft List.not_mem_nil
        · omega }

end Loop

end BusinessAssistant.Foundation
