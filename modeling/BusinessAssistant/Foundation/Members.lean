/-
# Deciding over members

What is asked of the members of a list or of an option is decided along them, also where their
type is finite and could be searched as a whole.
-/

import Mathlib.Logic.Basic

namespace BusinessAssistant.Foundation

universe u

variable {α : Type u} {P : α → Prop} [DecidablePred P]

instance (priority := high) decidableForallMem (rows : List α) : Decidable (∀ row ∈ rows, P row) :=
  List.decidableBAll P rows

instance (priority := high) decidableExistsMem (rows : List α) : Decidable (∃ row ∈ rows, P row) :=
  List.decidableBEx P rows

instance (priority := high) decidableForallOption (found : Option α) :
    Decidable (∀ row ∈ found, P row) :=
  Option.decidableForallMem found

instance (priority := high) decidableExistsOption (found : Option α) :
    Decidable (∃ row ∈ found, P row) :=
  Option.decidableExistsMem found

end BusinessAssistant.Foundation
