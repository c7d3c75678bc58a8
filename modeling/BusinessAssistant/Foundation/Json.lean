/-
# JSON values and schemas

Values as a parser of JSON hands them over: integers and finite fractions apart, an object
as the list of its entries, of which the first under a key counts. A schema is one of the
shapes that strict output formats are written in, with objects that list their keys.
-/

import BusinessAssistant.Foundation.Members
import Mathlib.Data.List.Nodup
import Mathlib.Data.Rat.Defs

namespace BusinessAssistant.Foundation

inductive Json
  | null
  | bool (value : Bool)
  | integer (value : Int)
  | real (value : ℚ)
  | string (value : List Char)
  | array (items : List Json)
  | object (entries : List (List Char × Json))

/-- The schema of a value. -/
inductive Schema
  /-- Strings of a length between the bounds, where there are any. -/
  | string (minLength maxLength : Option ℕ)
  /-- The strings of an enumeration. -/
  | choice (options : List (List Char))
  | number (minimum maximum : ℚ)
  | array (items : Schema) (maxItems : ℕ)
  /-- Objects with all the required keys and none but those of the properties. -/
  | object (properties : List (List Char × Schema)) (required : List (List Char))

namespace Json

/-- The entry of an object under a key; null where it has none. -/
def entry (entries : List (List Char × Json)) (key : List Char) : Json :=
  (entries.lookup key).getD null

/-- The number a value is. -/
def number? : Json → Option ℚ
  | integer value => some value
  | real value => some value
  | null | bool _ | string _ | array _ | object _ => none

/-- A value that occurs in another. -/
inductive Part : Json → Json → Prop
  | whole (value : Json) : Part value value
  | item {part item : Json} {items : List Json} (hitem : item ∈ items) (hpart : Part part item) :
      Part part (.array items)
  | entry {part value : Json} {key : List Char} {entries : List (List Char × Json)}
      (hentry : (key, value) ∈ entries) (hpart : Part part value) : Part part (.object entries)

theorem Part.trans {first second third : Json} (hfirst : Part first second)
    (hsecond : Part second third) : Part first third := by
  induction hsecond with
  | whole => exact hfirst
  | item hitem _ ih => exact .item hitem ih
  | entry hentry _ ih => exact .entry hentry ih

section Parts

variable {part : Json}

theorem part_integer_iff {value : Int} : Part part (.integer value) ↔ part = .integer value :=
  ⟨fun h => by cases h; rfl, fun h => h ▸ .whole _⟩

theorem part_string_iff {value : List Char} : Part part (.string value) ↔ part = .string value :=
  ⟨fun h => by cases h; rfl, fun h => h ▸ .whole _⟩

theorem part_array_iff {items : List Json} :
    Part part (.array items) ↔ part = .array items ∨ ∃ item ∈ items, Part part item := by
  constructor
  · intro h
    cases h with
    | whole => exact .inl rfl
    | item hitem hpart => exact .inr ⟨_, hitem, hpart⟩
  · intro h
    rcases h with rfl | ⟨item, hitem, hpart⟩
    · exact .whole _
    · exact .item hitem hpart

theorem part_object_iff {entries : List (List Char × Json)} : Part part (.object entries) ↔
    part = .object entries ∨ ∃ entry ∈ entries, Part part entry.2 := by
  constructor
  · intro h
    cases h with
    | whole => exact .inl rfl
    | entry hentry hpart => exact .inr ⟨_, hentry, hpart⟩
  · intro h
    rcases h with rfl | ⟨entry, hentry, hpart⟩
    · exact .whole _
    · exact .entry hentry hpart

end Parts

theorem mem_of_lookup {entries : List (List Char × Json)} {key : List Char} {value : Json}
    (hlookup : entries.lookup key = some value) : (key, value) ∈ entries := by
  induction entries with
  | nil => cases hlookup
  | cons first rest ih =>
      rw [List.lookup_cons] at hlookup
      split at hlookup
      · rename_i hkey
        cases hlookup
        rw [eq_of_beq hkey]
        exact List.mem_cons_self
      · exact List.mem_cons_of_mem _ (ih hlookup)

theorem lookup_isSome_iff {entries : List (List Char × Json)} {key : List Char} :
    (entries.lookup key).isSome = true ↔ key ∈ entries.map Prod.fst := by
  induction entries with
  | nil => simp
  | cons first rest ih =>
      rw [List.lookup_cons, List.map_cons, List.mem_cons, ← ih]
      split
      · rename_i hkey
        simp [eq_of_beq hkey]
      · rename_i hkey
        have hne : key ≠ first.1 := fun hsame => by simp [hsame] at hkey
        simp [hne]

/-- What an object has under one of its keys is a part of it. -/
theorem part_entry {entries : List (List Char × Json)} {key : List Char}
    (hkey : key ∈ entries.map Prod.fst) : Part (entry entries key) (.object entries) := by
  obtain ⟨value, hvalue⟩ := Option.isSome_iff_exists.mp (lookup_isSome_iff.mpr hkey)
  unfold entry
  rw [hvalue]
  exact .entry (mem_of_lookup hvalue) (.whole value)

end Json

/-! ## Values of a schema -/

/-- A value satisfies a schema. -/
inductive Satisfies : Schema → Json → Prop
  | string {minLength maxLength : Option ℕ} {value : List Char}
      (hmin : ∀ bound ∈ minLength, bound ≤ value.length)
      (hmax : ∀ bound ∈ maxLength, value.length ≤ bound) :
      Satisfies (.string minLength maxLength) (.string value)
  | choice {options : List (List Char)} {value : List Char} (hvalue : value ∈ options) :
      Satisfies (.choice options) (.string value)
  | number {minimum maximum : ℚ} {json : Json} {value : ℚ} (hjson : json.number? = some value)
      (hmin : minimum ≤ value) (hmax : value ≤ maximum) : Satisfies (.number minimum maximum) json
  | array {schema : Schema} {maxItems : ℕ} {items : List Json} (hlength : items.length ≤ maxItems)
      (hitems : ∀ item ∈ items, Satisfies schema item) :
      Satisfies (.array schema maxItems) (.array items)
  | object {properties : List (List Char × Schema)} {required : List (List Char)}
      {entries : List (List Char × Json)}
      (hrequired : ∀ key ∈ required, key ∈ entries.map Prod.fst)
      (hknown : ∀ key ∈ entries.map Prod.fst, key ∈ properties.map Prod.fst)
      (hentries : ∀ property ∈ properties, property.1 ∈ entries.map Prod.fst →
        Satisfies property.2 (Json.entry entries property.1)) :
      Satisfies (.object properties required) (.object entries)

section Inversion

variable {json : Json}

theorem satisfies_string_iff {minLength maxLength : Option ℕ} :
    Satisfies (.string minLength maxLength) json ↔ ∃ value, json = .string value ∧
      (∀ bound ∈ minLength, bound ≤ value.length) ∧ ∀ bound ∈ maxLength, value.length ≤ bound := by
  constructor
  · intro h
    cases h with
    | string hmin hmax => exact ⟨_, rfl, hmin, hmax⟩
  · intro h
    obtain ⟨value, rfl, hmin, hmax⟩ := h
    exact .string hmin hmax

theorem satisfies_choice_iff {options : List (List Char)} :
    Satisfies (.choice options) json ↔ ∃ value, json = .string value ∧ value ∈ options := by
  constructor
  · intro h
    cases h with
    | choice hvalue => exact ⟨_, rfl, hvalue⟩
  · intro h
    obtain ⟨value, rfl, hvalue⟩ := h
    exact .choice hvalue

theorem satisfies_number_iff {minimum maximum : ℚ} :
    Satisfies (.number minimum maximum) json ↔
      ∃ value, json.number? = some value ∧ minimum ≤ value ∧ value ≤ maximum := by
  constructor
  · intro h
    cases h with
    | number hjson hmin hmax => exact ⟨_, hjson, hmin, hmax⟩
  · intro h
    obtain ⟨value, hjson, hmin, hmax⟩ := h
    exact .number hjson hmin hmax

theorem satisfies_array_iff {schema : Schema} {maxItems : ℕ} :
    Satisfies (.array schema maxItems) json ↔ ∃ items, json = .array items ∧
      items.length ≤ maxItems ∧ ∀ item ∈ items, Satisfies schema item := by
  constructor
  · intro h
    cases h with
    | array hlength hitems => exact ⟨_, rfl, hlength, hitems⟩
  · intro h
    obtain ⟨items, rfl, hlength, hitems⟩ := h
    exact .array hlength hitems

/-- An object of which every property is required has just the keys of its properties. -/
theorem satisfies_object_iff {properties : List (List Char × Schema)}
    {required : List (List Char)} (hrequired : required = properties.map Prod.fst) :
    Satisfies (.object properties required) json ↔ ∃ entries, json = .object entries ∧
      (∀ key, key ∈ entries.map Prod.fst ↔ key ∈ required) ∧
      ∀ property ∈ properties, Satisfies property.2 (Json.entry entries property.1) := by
  subst hrequired
  constructor
  · intro h
    cases h with
    | object hpresent hknown hentries =>
        refine ⟨_, rfl, fun key => ⟨hknown key, hpresent key⟩, fun property hproperty => ?_⟩
        exact hentries property hproperty (hpresent _ (List.mem_map_of_mem hproperty))
  · intro h
    obtain ⟨entries, rfl, hkeys, hentries⟩ := h
    exact .object (fun key hkey => (hkeys key).mpr hkey) (fun key hkey => (hkeys key).mp hkey)
      (fun property hproperty _ => hentries property hproperty)

end Inversion

end BusinessAssistant.Foundation
