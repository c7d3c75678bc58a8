/-
# Callback tokens cannot be altered

The parts of a token have no dots in them, and what is in each of them is read
back as it was written. The decoder takes more texts for a number or an id than
the encoder writes, but the signature is over the text: what is accepted is the
text that was signed.
-/

import BusinessAssistant.Presentation.Callbacks
import Mathlib.Data.List.Infix
import Mathlib.Data.List.TakeWhile
import Mathlib.Logic.Encodable.Basic
import Mathlib.Logic.Equiv.List

namespace BusinessAssistant.Presentation

open BusinessAssistant.Domain BusinessAssistant.Foundation BusinessAssistant.Foundation.Base64

/-- A text of ASCII characters without dots. -/
def Plain (text : Text) : Prop := ∀ char ∈ text, char.toNat < 128 ∧ char ≠ '.'

instance (text : Text) : Decidable (Plain text) := inferInstanceAs (Decidable (∀ char ∈ text, _))

/-! ## Numbers -/

/-- A digit is read as itself and as nothing else. -/
theorem base36Digit_spec : ∀ digit < 36, base36Value? (base36Digit digit) = some digit ∧
    isAsciiSpace (base36Digit digit) = false ∧ base36Digit digit ∉ ['-', '+', '_', '.', '~'] ∧
    (base36Digit digit).toNat < 128 := by
  decide +kernel

/-- A text of digits. -/
def Digits (text : Text) : Prop := ∀ char ∈ text, ∃ digit < 36, base36Digit digit = char

theorem digits_loop (value : ℕ) {result : Text} (hresult : Digits result) :
    Digits (base36Loop value result) := by
  induction value, result using base36Loop.induct with
  | case1 result =>
      rw [base36Loop, if_pos rfl]
      exact hresult
  | case2 value result hvalue ih =>
      rw [base36Loop, if_neg hvalue]
      apply ih
      intro char hchar
      rcases List.mem_cons.mp hchar with rfl | hrest
      · exact ⟨value % 36, Nat.mod_lt value (by decide), rfl⟩
      · exact hresult char hrest

theorem digits_base36 (value : ℕ) : Digits (base36 value) := by
  unfold base36
  split
  · intro char hchar
    exact ⟨0, by decide, (List.mem_singleton.mp hchar).symm⟩
  · exact digits_loop value nofun

theorem base36Loop_ne_nil (value : ℕ) {result : Text} (hresult : result ≠ []) :
    base36Loop value result ≠ [] := by
  induction value, result using base36Loop.induct with
  | case1 result =>
      rw [base36Loop, if_pos rfl]
      exact hresult
  | case2 value result hvalue ih =>
      rw [base36Loop, if_neg hvalue]
      exact ih (List.cons_ne_nil _ _)

theorem base36_ne_nil (value : ℕ) : base36 value ≠ [] := by
  unfold base36
  split
  · exact List.cons_ne_nil _ _
  · rename_i hvalue
    rw [base36Loop, if_neg hvalue]
    exact base36Loop_ne_nil _ (List.cons_ne_nil _ _)

/-- The digits of a number, read before others, are the number. -/
theorem number_loop (value : ℕ) (result : Text) :
    base36Number 0 (base36Loop value result) = base36Number value result := by
  induction value, result using base36Loop.induct with
  | case1 result => rw [base36Loop, if_pos rfl]
  | case2 value result hvalue ih =>
      have hdigit := (base36Digit_spec (value % 36) (Nat.mod_lt value (by decide))).1
      rw [base36Loop, if_neg hvalue, ih]
      simp only [base36Number, List.foldl_cons, hdigit, Option.getD_some]
      rw [Nat.div_add_mod']

theorem number_base36 (value : ℕ) : base36Number 0 (base36 value) = value := by
  unfold base36
  split
  · rename_i hzero
    rw [hzero]
    rfl
  · exact number_loop value []

/-- Digits are read as the number they are. -/
theorem fromBase36_digits {text : Text} (hdigits : Digits text) (htext : text ≠ []) :
    fromBase36 text = some (base36Number 0 text : Int) := by
  have hspec : ∀ char ∈ text, isBase36Char char = true ∧ isAsciiSpace char = false ∧
      char ∉ ['-', '+', '_', '.', '~'] := by
    intro char hchar
    obtain ⟨digit, hdigit, rfl⟩ := hdigits char hchar
    obtain ⟨hvalue, hspace, hother, _⟩ := base36Digit_spec digit hdigit
    exact ⟨by simp [isBase36Char, hvalue], hspace, hother⟩
  have hunderscore : ∀ char ∈ text, char ≠ '_' := by
    intro char hchar hsame
    exact (hspec char hchar).2.2 (by simp [hsame])
  have htrim : text.dropWhile isAsciiSpace = text := by
    cases text with
    | nil => rfl
    | cons char rest =>
        rw [List.dropWhile_cons_of_neg]
        simp [(hspec char List.mem_cons_self).2.1]
  have hsign : Text.takeSign text = (false, text) := by
    cases text with
    | nil => rfl
    | cons char rest =>
        have hother := (hspec char List.mem_cons_self).2.2
        unfold Text.takeSign
        split
        · next hsame =>
            cases hsame
            simp at hother
        · next hsame =>
            cases hsame
            simp at hother
        · rfl
  have htake : text.takeWhile isBase36Char = text :=
    List.takeWhile_eq_self_iff.mpr fun char hchar => (hspec char hchar).1
  have hdrop : text.dropWhile isBase36Char = [] :=
    List.dropWhile_eq_nil_iff.mpr fun char hchar => (hspec char hchar).1
  have hfilter : text.filter (· ≠ '_') = text := by
    apply List.filter_eq_self.mpr
    intro char hchar
    exact decide_eq_true (hunderscore char hchar)
  have hvalid : text ≠ [] ∧ text.head? ≠ some '_' ∧ text.getLast? ≠ some '_' ∧
      ¬ ['_', '_'] <:+: text ∧ ([] : Text).all isAsciiSpace = true := by
    refine ⟨htext, ?_, ?_, ?_, rfl⟩
    · intro hhead
      exact hunderscore '_' (List.mem_of_head? hhead) rfl
    · intro hlast
      exact hunderscore '_' (List.mem_of_getLast? hlast) rfl
    · intro hslice
      exact hunderscore '_' (hslice.subset List.mem_cons_self) rfl
  unfold fromBase36
  rw [htrim, hsign]
  simp only [htake, hdrop, hfilter]
  rw [if_pos hvalid]
  rfl

theorem fromBase36_base36 (value : ℕ) : fromBase36 (base36 value) = some (value : Int) := by
  rw [fromBase36_digits (digits_base36 value) (base36_ne_nil value), number_base36]

theorem plain_base36 (value : ℕ) : Plain (base36 value) := by
  intro char hchar
  obtain ⟨digit, hdigit, rfl⟩ := digits_base36 value char hchar
  obtain ⟨_, _, hother, hascii⟩ := base36Digit_spec digit hdigit
  exact ⟨hascii, fun hdot => hother (by simp [hdot])⟩

/-! ## Identifiers -/

theorem length_bigEndian (count value : ℕ) : (bigEndian count value).length = count := by
  induction count generalizing value with
  | zero => rfl
  | succ count ih => rw [bigEndian, List.length_append, ih, List.length_singleton]

theorem fromBigEndian_bigEndian (count value : ℕ) :
    fromBigEndian (bigEndian count value) = value % 256 ^ count := by
  induction count generalizing value with
  | zero => simp [bigEndian, fromBigEndian, Nat.mod_one]
  | succ count ih =>
      have hhigh : fromBigEndian (bigEndian (count + 1) value) =
          fromBigEndian (bigEndian count (value / 256)) * 256 + value % 256 := by
        simp [bigEndian, fromBigEndian, List.foldl_append]
      rw [hhigh, ih, Nat.pow_succ', Nat.mod_mul]
      omega

theorem decodeUuid_encodeUuid (id : UUID) : decodeUuid (encodeUuid id) = some id := by
  unfold decodeUuid encodeUuid
  rw [decode_unpadded]
  simp only [Option.bind_some, length_bigEndian, if_pos, fromBigEndian_bigEndian]
  have hbound : id.toNat < 256 ^ 16 := id.isLt
  rw [Nat.mod_eq_of_lt hbound, BitVec.ofNat_toNat, BitVec.setWidth_eq]

theorem length_encodeUuid (id : UUID) : (encodeUuid id).length = 22 := by
  rw [encodeUuid, length_unpadded, length_bigEndian]

theorem urlsafe_symbol : ∀ digit, (urlsafe.symbol digit).toNat < 128 ∧
    urlsafe.symbol digit ≠ '.' ∧ urlsafe.symbol digit ≠ '~' := by
  decide +kernel

theorem plain_unpadded (bytes : List Byte) : Plain (unpadded urlsafe bytes) := by
  intro char hchar
  obtain ⟨digit, rfl⟩ := mem_unpadded hchar
  exact ⟨(urlsafe_symbol digit).1, (urlsafe_symbol digit).2.1⟩

theorem digit_of_mem_ofNat {number : ℕ} {char : Char} (hchar : char ∈ Text.ofNat number) :
    48 ≤ char.toNat ∧ char.toNat ≤ 57 := by
  have hdigit := Nat.isDigit_of_mem_toDigits (by decide) (by decide) hchar
  simpa [Char.isDigit, UInt32.le_iff_toNat_le] using hdigit

theorem plain_ofInt (number : Int) : Plain (Text.ofInt number) := by
  have hdigits : Plain (Text.ofNat number.natAbs) := by
    intro char hchar
    obtain ⟨hlow, hhigh⟩ := digit_of_mem_ofNat hchar
    refine ⟨by omega, ?_⟩
    rintro rfl
    exact absurd hlow (by decide)
  unfold Text.ofInt
  split
  · intro char hchar
    rcases List.mem_cons.mp hchar with rfl | hrest
    · decide
    · exact hdigits char hrest
  · exact hdigits

theorem ofNat_injective {first second : ℕ} (hsame : Text.ofNat first = Text.ofNat second) :
    first = second := by
  have hvalue := congrArg (fun digits => Nat.ofDigitChars 10 digits 0) hsame
  simpa [Text.ofNat, Nat.ofDigitChars_ten_toDigits] using hvalue

theorem ofInt_injective {first second : Int} (hsame : Text.ofInt first = Text.ofInt second) :
    first = second := by
  have hminus : ∀ number : ℕ, '-' ∉ Text.ofNat number := fun number hchar =>
    absurd (digit_of_mem_ofNat hchar).1 (by decide)
  unfold Text.ofInt at hsame
  split at hsame
  · split at hsame
    · have hnumber := ofNat_injective (List.cons.inj hsame).2
      omega
    · exact absurd (hsame ▸ List.mem_cons_self) (hminus second.natAbs)
  · split at hsame
    · exact absurd (hsame ▸ List.mem_cons_self) (hminus first.natAbs)
    · have hnumber := ofNat_injective hsame
      omega

theorem plain_action (action : CallbackAction) : Plain action.value := by
  cases action <;> decide

theorem ofValue_value (action : CallbackAction) :
    CallbackAction.ofValue? action.value = some action := by
  cases action <;> rfl

theorem plain_append {first second : Text} (hfirst : Plain first) (hsecond : Plain second) :
    Plain (first ++ second) := by
  intro char hchar
  rcases List.mem_append.mp hchar with hleft | hright
  · exact hfirst char hleft
  · exact hsecond char hright

/-! ## The entity and the page -/

/-- The entity of a token, or the mark for none. -/
def entityText (entityId : Option UUID) : Text := (entityId.map encodeUuid).getD ['-']

theorem entityText_some (id : UUID) : entityText (some id) = encodeUuid id := by
  rw [entityText, Option.map_some, Option.getD_some]

theorem entityText_spec (entityId : Option UUID) : ∀ char ∈ entityText entityId,
    char.toNat < 128 ∧ char ≠ '.' ∧ char ≠ '~' := by
  intro char hchar
  cases entityId with
  | none =>
      rw [List.mem_singleton.mp hchar]
      decide
  | some id =>
      rw [entityText_some, encodeUuid] at hchar
      obtain ⟨digit, rfl⟩ := mem_unpadded hchar
      exact urlsafe_symbol digit

theorem plain_entityPart (entityId : Option UUID) (page : Option Int) :
    Plain (entityPart entityId page) := by
  have hentity : Plain (entityText entityId) := fun char hchar =>
    ⟨(entityText_spec entityId char hchar).1, (entityText_spec entityId char hchar).2.1⟩
  cases page with
  | none => exact hentity
  | some page =>
      apply plain_append hentity
      intro char hchar
      rcases List.mem_cons.mp hchar with rfl | hrest
      · decide
      · exact plain_base36 page.toNat char hrest

theorem partitionPage_entityPart (entityId : Option UUID) (page : Option Int) :
    partitionPage (entityPart entityId page) =
      (entityText entityId, page.map fun number => base36 number.toNat) := by
  have hentity : ∀ char ∈ entityText entityId, decide (char ≠ '~') = true := fun char hchar =>
    decide_eq_true (entityText_spec entityId char hchar).2.2
  cases page with
  | none =>
      have htake : (entityText entityId).takeWhile (· ≠ '~') = entityText entityId :=
        List.takeWhile_eq_self_iff.mpr hentity
      have hdrop : (entityText entityId).dropWhile (· ≠ '~') = [] :=
        List.dropWhile_eq_nil_iff.mpr hentity
      unfold partitionPage
      rw [show entityPart entityId none = entityText entityId from rfl, hdrop]
      simp only [htake, Option.map_none]
  | some number =>
      have htake : (entityText entityId ++ '~' :: base36 number.toNat).takeWhile (· ≠ '~') =
          entityText entityId := by
        rw [List.takeWhile_append_of_pos hentity]
        simp
      have hdrop : (entityText entityId ++ '~' :: base36 number.toNat).dropWhile (· ≠ '~') =
          '~' :: base36 number.toNat := by
        rw [List.dropWhile_append_of_pos hentity]
        simp
      unfold partitionPage
      rw [show entityPart entityId (some number) =
        entityText entityId ++ '~' :: base36 number.toNat from rfl, hdrop]
      simp only [htake, Option.map_some]

theorem entityText_none_iff (entityId : Option UUID) :
    entityText entityId = ['-'] ↔ entityId = none := by
  cases entityId with
  | none => simp [entityText]
  | some id =>
      have hlength := length_encodeUuid id
      constructor
      · intro hmark
        rw [entityText_some] at hmark
        rw [hmark] at hlength
        cases hlength
      · intro hnone
        cases hnone

/-! ## Both directions -/

/-- The combinations the decoder permits. -/
structure Permitted (action : CallbackAction) (entityId : Option UUID) (page : Option Int) :
    Prop where
  entity : entityId ≠ none ↔ action ∈ CallbackAction.entityActions
  paged : page ≠ none → action ∈ CallbackAction.pagedActions

def PageInRange (page : Option Int) : Prop := ∀ number ∈ page, 0 ≤ number ∧ number ≤ maxCallbackPage

section Tokens

variable {digest : Text → TenantId → Text → List Byte} {codec : SignedCallbackCodec} {now : Int}
  {tenantId : TenantId} {action : CallbackAction} {entityId : Option UUID} {page : Option Int}
  {value : Text} {token : CallbackToken}

theorem readPage_written (hpage : PageInRange page) :
    SignedCallbackCodec.readPage (page.map fun number => base36 number.toNat) = .ok page := by
  cases page with
  | none => rfl
  | some number =>
      have hrange := hpage number rfl
      simp only [Option.map_some, SignedCallbackCodec.readPage, fromBase36_base36,
        Int.toNat_of_nonneg hrange.1, if_pos hrange]

theorem readEntity_written (entityId : Option UUID) :
    SignedCallbackCodec.readEntity (entityText entityId) = .ok entityId := by
  unfold SignedCallbackCodec.readEntity
  cases entityId with
  | none => rfl
  | some id =>
      have hmark : entityText (some id) ≠ ['-'] := by
        rw [ne_eq, entityText_none_iff]
        exact Option.some_ne_none id
      rw [if_neg hmark, entityText_some, decodeUuid_encodeUuid]

theorem checked_permitted (hpermitted : Permitted action entityId page) :
    SignedCallbackCodec.checked action entityId page =
      .ok { action := action, entityId := entityId, page := page } := by
  unfold SignedCallbackCodec.checked
  rw [if_neg, if_neg, if_neg]
  · intro hboth
    exact hboth.1 (hpermitted.paged hboth.2)
  · intro hboth
    exact hboth.1 (hpermitted.entity.mp hboth.2)
  · intro hboth
    exact hpermitted.entity.mpr hboth.1 hboth.2

/-- What is written is read until it expires. -/
theorem read_written (hpermitted : Permitted action entityId page) (hpage : PageInRange page)
    {expires : Int} (hexpires : 0 ≤ expires) (hnow : now < expires) :
    SignedCallbackCodec.read now action.value (entityPart entityId page)
      (base36 expires.toNat) = .ok { action := action, entityId := entityId, page := page } := by
  have hexpiry : fromBase36 (base36 expires.toNat) = some expires := by
    rw [fromBase36_base36, Int.toNat_of_nonneg hexpires]
  unfold SignedCallbackCodec.read
  rw [ofValue_value, hexpiry, partitionPage_entityPart]
  simp only [if_neg (not_le.mpr hnow), readPage_written hpage, readEntity_written, Except.bind,
    checked_permitted hpermitted]

/-- What is read has not expired. -/
theorem not_expired {actionText entityText expiryText : Text}
    (hread : SignedCallbackCodec.read now actionText entityText expiryText = .ok token) :
    ∃ expiry, fromBase36 expiryText = some expiry ∧ now < expiry := by
  unfold SignedCallbackCodec.read at hread
  split at hread
  · cases hread
  · cases hread
  · rename_i action expiry _ hexpiry
    refine ⟨expiry, hexpiry, ?_⟩
    by_contra hexpired
    rw [if_pos (not_lt.mp hexpired)] at hread
    cases hread

/-- The parts of the token that `encode` makes. -/
def tokenParts (digest : Text → TenantId → Text → List Byte) (codec : SignedCallbackCodec)
    (now : Int) (tenantId : TenantId) (action : CallbackAction) (entityId : Option UUID)
    (page : Option Int) : List Text :=
  let body := [Text.ofInt codec.version, action.value, entityPart entityId page,
    base36 (now + codec.expirySeconds).toNat]
  body ++ [codec.signature digest tenantId (['.'].intercalate body)]

theorem intercalate_five (first second third fourth last : Text) :
    ['.'].intercalate [first, second, third, fourth, last] =
      ['.'].intercalate [first, second, third, fourth] ++ '.' :: last := by
  simp [List.intercalate]

theorem mem_intercalate {char : Char} {parts : List Text}
    (hchar : char ∈ ['.'].intercalate parts) : char = '.' ∨ ∃ part ∈ parts, char ∈ part := by
  induction parts with
  | nil => cases hchar
  | cons part rest ih =>
      cases rest with
      | nil =>
          have hpart : char ∈ part := by simpa [List.intercalate] using hchar
          exact .inr ⟨part, List.mem_cons_self, hpart⟩
      | cons next rest =>
          rw [List.intercalate_cons_cons, List.append_assoc] at hchar
          rcases List.mem_append.mp hchar with hpart | hrest
          · exact .inr ⟨part, List.mem_cons_self, hpart⟩
          · rcases List.mem_cons.mp hrest with hdot | hrest
            · exact .inl hdot
            · rcases ih hrest with hdot | ⟨other, hother, hmem⟩
              · exact .inl hdot
              · exact .inr ⟨other, List.mem_cons_of_mem _ hother, hmem⟩

theorem plain_parts {part : Text}
    (hpart : part ∈ tokenParts digest codec now tenantId action entityId page) : Plain part := by
  simp only [tokenParts, List.cons_append, List.nil_append, List.mem_cons, List.not_mem_nil,
    or_false] at hpart
  rcases hpart with rfl | rfl | rfl | rfl | rfl
  · exact plain_ofInt codec.version
  · exact plain_action action
  · exact plain_entityPart entityId page
  · exact plain_base36 _
  · exact plain_unpadded _

theorem splitOn_parts :
    (['.'].intercalate (tokenParts digest codec now tenantId action entityId page)).splitOn '.' =
      tokenParts digest codec now tenantId action entityId page := by
  apply List.splitOn_intercalate
  · intro part hpart hdot
    exact (plain_parts hpart '.' hdot).2 rfl
  · exact List.cons_ne_nil _ _

/-- A token consists of ASCII characters. -/
theorem ascii_parts :
    isAscii (['.'].intercalate (tokenParts digest codec now tenantId action entityId page)) =
      true := by
  apply List.all_eq_true.mpr
  intro char hchar
  apply decide_eq_true
  rcases mem_intercalate hchar with rfl | ⟨part, hpart, hmem⟩
  · decide
  · exact (plain_parts hpart char hmem).1

/-- The body that `encode` signs. -/
theorem body_eq_ok {text : Text} (hbody : codec.body now action entityId page = .ok text) :
    PageInRange page ∧ 0 ≤ now + codec.expirySeconds ∧
      text = ['.'].intercalate [Text.ofInt codec.version, action.value, entityPart entityId page,
        base36 (now + codec.expirySeconds).toNat] := by
  unfold SignedCallbackCodec.body at hbody
  split at hbody
  · cases hbody
  · rename_i hpage
    simp only at hbody
    split at hbody
    · cases hbody
    · rename_i hexpires
      cases hbody
      refine ⟨?_, not_lt.mp hexpires, rfl⟩
      intro number hnumber
      by_contra hout
      exact hpage ⟨number, hnumber, hout⟩

theorem encode_eq_ok (hencode : codec.encode digest now tenantId action entityId page = .ok value) :
    PageInRange page ∧ 0 ≤ now + codec.expirySeconds ∧ utf8Length value ≤ maxCallbackBytes ∧
      value = ['.'].intercalate (tokenParts digest codec now tenantId action entityId page) := by
  unfold SignedCallbackCodec.encode at hencode
  cases hbody : codec.body now action entityId page with
  | error failure =>
      rw [hbody] at hencode
      cases hencode
  | ok text =>
      obtain ⟨hpage, hexpires, rfl⟩ := body_eq_ok hbody
      rw [hbody] at hencode
      simp only [Except.bind] at hencode
      split at hencode
      · cases hencode
      · rename_i hlength
        cases hencode
        refine ⟨hpage, hexpires, not_lt.mp hlength, ?_⟩
        exact (intercalate_five _ _ _ _ _).symm

/-- A token is read as it was written, by any codec of its key and version, until
it expires. -/
theorem decode_encode (hpermitted : Permitted action entityId page)
    (hencode : codec.encode digest now tenantId action entityId page = .ok value)
    {reader : SignedCallbackCodec} (hkey : reader.signingKey = codec.signingKey)
    (hversion : reader.version = codec.version) {later : Int}
    (hlater : later < now + codec.expirySeconds) :
    reader.decode digest later tenantId value =
      .ok { action := action, entityId := entityId, page := page } := by
  obtain ⟨hpage, hexpires, hlength, rfl⟩ := encode_eq_ok hencode
  unfold SignedCallbackCodec.decode
  rw [if_neg (by rw [ascii_parts]; simp [hlength]), splitOn_parts]
  simp only [tokenParts, List.cons_append, List.nil_append, SignedCallbackCodec.signature, hkey,
    hversion, ne_eq, not_true_eq_false, if_false]
  exact read_written hpermitted hpage hexpires hlater

/-- What is accepted has five parts, the first the version and the last the
signature over the others, and has not expired. -/
theorem decode_eq_ok (hdecode : codec.decode digest now tenantId value = .ok token) :
    utf8Length value ≤ maxCallbackBytes ∧ ∃ action entity expiry,
      value.splitOn '.' = [Text.ofInt codec.version, action, entity, expiry,
        codec.signature digest tenantId
          (['.'].intercalate [Text.ofInt codec.version, action, entity, expiry])] ∧
      ∃ expires, fromBase36 expiry = some expires ∧ now < expires := by
  unfold SignedCallbackCodec.decode at hdecode
  split at hdecode
  · cases hdecode
  · rename_i hshape
    refine ⟨not_lt.mp fun hlong => hshape (.inr hlong), ?_⟩
    split at hdecode
    · rename_i version action entity expiry supplied hparts
      split at hdecode
      · cases hdecode
      · rename_i hversion
        simp only at hdecode
        split at hdecode
        · cases hdecode
        · rename_i hsupplied
          rw [not_not] at hversion hsupplied
          subst hversion hsupplied
          exact ⟨action, entity, expiry, hparts, not_expired hdecode⟩
    · cases hdecode

/-- A call of `encode` that has signed a text. -/
structure Signing where
  codec : SignedCallbackCodec
  now : Int
  tenantId : TenantId
  action : CallbackAction
  entityId : Option UUID
  page : Option Int
  text : Text
  signed : codec.body now action entityId page = .ok text

/-- The signature it has made. -/
def Signing.signature (signing : Signing) (digest : Text → TenantId → Text → List Byte) : Text :=
  signing.codec.signature digest signing.tenantId signing.text

/-- Where a text carries a signature of anything, that was made by some of these
calls: nothing else has been signed. -/
def OnlySigned (digest : Text → TenantId → Text → List Byte) (signings : Signing → Prop)
    (value : Text) : Prop :=
  ∀ (other : SignedCallbackCodec) (tenantId : TenantId) (body : Text),
    (value.splitOn '.').getLast? = some (other.signature digest tenantId body) →
      ∃ signing, signings signing ∧ signing.signature digest = other.signature digest tenantId body

/-- The digest tells keys, tenants and texts apart. -/
def TellsApart (digest : Text → TenantId → Text → List Byte) : Prop :=
  ∀ key key' tenantId tenantId' body body',
    digest key tenantId body = digest key' tenantId' body' →
      key = key' ∧ tenantId = tenantId' ∧ body = body'

/-- A text that is accepted for two tenants is accepted for one. -/
theorem decode_tenant (happart : TellsApart digest)
    (hdecode : codec.decode digest now tenantId value = .ok token) {reader : SignedCallbackCodec}
    {later : Int} {other : TenantId} {token' : CallbackToken}
    (hother : reader.decode digest later other value = .ok token') : other = tenantId := by
  obtain ⟨_, action, entity, expiry, hparts, _⟩ := decode_eq_ok hdecode
  obtain ⟨_, action', entity', expiry', hparts', _⟩ := decode_eq_ok hother
  rw [hparts] at hparts'
  simp only [List.cons.injEq] at hparts'
  exact (happart _ _ _ _ _ _ (unpadded_injective hparts'.2.2.2.2.1)).2.1.symm

/-- What is accepted is a token that `encode` has returned for the tenant, with this
key and version, and that has not expired. -/
theorem decode_issued (happart : TellsApart digest) {signings : Signing → Prop}
    (honly : OnlySigned digest signings value)
    (hdecode : codec.decode digest now tenantId value = .ok token) :
    ∃ signing, signings signing ∧ signing.tenantId = tenantId ∧
      signing.codec.signingKey = codec.signingKey ∧ signing.codec.version = codec.version ∧
      now < signing.now + signing.codec.expirySeconds ∧
      signing.codec.encode digest signing.now tenantId signing.action signing.entityId
        signing.page = .ok value := by
  obtain ⟨hlength, action, entity, expiry, hparts, expires, hexpiry, hnow⟩ := decode_eq_ok hdecode
  have hlast : (value.splitOn '.').getLast? = some (codec.signature digest tenantId
      (['.'].intercalate [Text.ofInt codec.version, action, entity, expiry])) := by
    rw [hparts]
    rfl
  obtain ⟨signing, hsigning, hsame⟩ := honly codec tenantId _ hlast
  obtain ⟨hkey, htenant, htext⟩ := happart _ _ _ _ _ _ (unpadded_injective hsame)
  -- The text before the signature is the one that was signed.
  have hvalue : value = signing.text ++ '.' :: signing.codec.signature digest tenantId
      signing.text := by
    have hjoined := @List.intercalate_splitOn Char value _ _ '.'
    rw [hparts, intercalate_five, ← htext] at hjoined
    rw [← hjoined]
    simp only [SignedCallbackCodec.signature, hkey]
  obtain ⟨hpage, hexpires, htext'⟩ := body_eq_ok signing.signed
  have hencode : signing.codec.encode digest signing.now tenantId signing.action signing.entityId
      signing.page = .ok value := by
    unfold SignedCallbackCodec.encode
    rw [signing.signed]
    simp only [Except.bind, ← hvalue]
    rw [if_neg (not_lt.mpr hlength)]
  have hwritten := (encode_eq_ok hencode).2.2.2
  have hsplit := hparts
  rw [hwritten, splitOn_parts] at hsplit
  simp only [tokenParts, List.cons_append, List.nil_append, List.cons.injEq] at hsplit
  refine ⟨signing, hsigning, htenant, hkey, ofInt_injective hsplit.1, ?_, hencode⟩
  rw [← hsplit.2.2.2.1, fromBase36_base36, Int.toNat_of_nonneg hexpires] at hexpiry
  cases hexpiry
  exact hnow

end Tokens

/-- Tokens are ASCII texts of at most 64 bytes and are read as they were written
until they expire; and what is accepted, when nothing has been signed but by
`encode`, is a token it has returned for that tenant and version and that has not
expired, so it is accepted for no other tenant. -/
theorem callback_tokens {digest : Text → TenantId → Text → List Byte}
    (happart : TellsApart digest) (codec : SignedCallbackCodec) :
    (∀ now tenantId action entityId page value, Permitted action entityId page →
      codec.encode digest now tenantId action entityId page = .ok value →
        isAscii value = true ∧ utf8Length value ≤ maxCallbackBytes ∧
        ∀ (reader : SignedCallbackCodec) (later : Int), reader.signingKey = codec.signingKey →
          reader.version = codec.version → later < now + codec.expirySeconds →
            reader.decode digest later tenantId value =
              .ok { action := action, entityId := entityId, page := page }) ∧
    ∀ now tenantId value token (signings : Signing → Prop), OnlySigned digest signings value →
      codec.decode digest now tenantId value = .ok token →
        (∃ signing, signings signing ∧ signing.tenantId = tenantId ∧
          signing.codec.signingKey = codec.signingKey ∧ signing.codec.version = codec.version ∧
          now < signing.now + signing.codec.expirySeconds ∧
          signing.codec.encode digest signing.now tenantId signing.action signing.entityId
            signing.page = .ok value) ∧
        ∀ later other token', codec.decode digest later other value = .ok token' →
          other = tenantId := by
  constructor
  · intro now tenantId action entityId page value hpermitted hencode
    obtain ⟨_, _, hlength, hvalue⟩ := encode_eq_ok hencode
    refine ⟨?_, hlength, ?_⟩
    · rw [hvalue]
      exact ascii_parts
    · intro reader later hkey hversion hlater
      exact decode_encode hpermitted hencode hkey hversion hlater
  · intro now tenantId value token signings honly hdecode
    refine ⟨decode_issued happart honly hdecode, ?_⟩
    intro later other token' hother
    exact decode_tenant happart hdecode hother

/-! ## A button -/

namespace Button

def codec : SignedCallbackCodec where
  signingKey := ['k']
  version := 1
  expirySeconds := 900
  hasKey := List.cons_ne_nil _ _

def tenantId : TenantId := 1#128

def body : Text := "1.ct.AAAAAAAAAAAAAAAAAAAABQ~2.s44x38".toList

/-- A number for a key, a tenant and a text. -/
def number (key : Text) (tenantId : TenantId) (body : Text) : ℕ :=
  Encodable.encode (key.map Char.toNat, tenantId.toNat, body.map Char.toNat)

/-- The digest is that of the algorithm for the body of the button, and one of its
own for every other text. -/
def digest (key : Text) (tenant : TenantId) (text : Text) : List Byte :=
  if key = codec.signingKey ∧ tenant = tenantId ∧ text = body then
    [75, 132, 255, 197, 181, 188, 4, 250]
  else List.replicate (number key tenant text + 9) 0

def token : Text := body ++ ".S4T_xbW8BPo".toList

theorem number_injective {key key' : Text} {tenant tenant' : TenantId} {text text' : Text}
    (hsame : number key tenant text = number key' tenant' text') :
    key = key' ∧ tenant = tenant' ∧ text = text' := by
  have hparts := Encodable.encode_injective hsame
  simp only [Prod.mk.injEq] at hparts
  have hchars : Function.Injective (List.map Char.toNat) :=
    List.map_injective_iff.mpr fun _ _ => Char.toNat_inj.mp
  exact ⟨hchars hparts.1, BitVec.eq_of_toNat_eq hparts.2.1, hchars hparts.2.2⟩

theorem length_digest {key : Text} {tenant : TenantId} {text : Text}
    (hother : ¬ (key = codec.signingKey ∧ tenant = tenantId ∧ text = body)) :
    (digest key tenant text).length = number key tenant text + 9 := by
  rw [digest, if_neg hother, List.length_replicate]

theorem digest_button : digest codec.signingKey tenantId body =
    [75, 132, 255, 197, 181, 188, 4, 250] :=
  if_pos ⟨rfl, rfl, rfl⟩

/-- A digest of eight bytes is that of the button. -/
theorem eq_of_length {key : Text} {tenant : TenantId} {text : Text}
    (hlength : (digest key tenant text).length = 8) :
    key = codec.signingKey ∧ tenant = tenantId ∧ text = body := by
  by_contra hother
  rw [length_digest hother] at hlength
  omega

theorem tellsApart : TellsApart digest := by
  intro key key' tenant tenant' text text' hsame
  by_cases hbutton : key = codec.signingKey ∧ tenant = tenantId ∧ text = body
  · obtain ⟨rfl, rfl, rfl⟩ := hbutton
    have hlength := congrArg List.length hsame.symm
    rw [digest_button] at hlength
    obtain ⟨rfl, rfl, rfl⟩ := eq_of_length hlength
    exact ⟨rfl, rfl, rfl⟩
  · by_cases hbutton' : key' = codec.signingKey ∧ tenant' = tenantId ∧ text' = body
    · obtain ⟨rfl, rfl, rfl⟩ := hbutton'
      have hlength := congrArg List.length hsame
      rw [digest_button] at hlength
      exact eq_of_length hlength
    · have hlength := congrArg List.length hsame
      rw [length_digest hbutton, length_digest hbutton'] at hlength
      exact number_injective (Nat.add_right_cancel hlength)

theorem base36_expiry : base36 1700000900 = "s44x38".toList := by
  rw [base36, if_neg (by decide)]
  iterate 6 rw [base36Loop, if_neg (by decide)]
  rw [base36Loop, if_pos (by decide)]
  decide

theorem base36_page : base36 2 = ['2'] := by
  rw [base36, if_neg (by decide), base36Loop, if_neg (by decide), base36Loop, if_pos (by decide)]
  decide

theorem body_button :
    codec.body 1700000000 .category (some 5#128) (some 2) = .ok body := by
  have hentity : entityPart (some 5#128) (some 2) = "AAAAAAAAAAAAAAAAAAAABQ~2".toList := by
    rw [entityPart, show ((2 : Int).toNat) = 2 from rfl, base36_page]
    decide +kernel
  have hexpires : (1700000000 + codec.expirySeconds).toNat = 1700000900 := rfl
  unfold SignedCallbackCodec.body
  rw [if_neg (by decide)]
  simp only [hentity, hexpires, base36_expiry]
  decide +kernel

theorem encode_button :
    codec.encode digest 1700000000 tenantId .category (some 5#128) (some 2) = .ok token := by
  have hsignature : codec.signature digest tenantId body = "S4T_xbW8BPo".toList := by
    rw [SignedCallbackCodec.signature, digest_button]
    decide +kernel
  unfold SignedCallbackCodec.encode
  rw [body_button]
  simp only [Except.bind, hsignature]
  decide +kernel
/-- The call that has made the button. -/
def signing : Signing where
  codec := codec
  now := 1700000000
  tenantId := tenantId
  action := .category
  entityId := some 5#128
  page := some 2
  text := body
  signed := body_button

theorem onlySigned : OnlySigned digest (· = signing) token := by
  intro other tenant text hcarried
  refine ⟨signing, rfl, ?_⟩
  have hlast : (token.splitOn '.').getLast? = some "S4T_xbW8BPo".toList := by decide +kernel
  rw [hlast] at hcarried
  have hlength := congrArg List.length (Option.some_inj.mp hcarried)
  rw [SignedCallbackCodec.signature, length_unpadded] at hlength
  have hbytes : (digest other.signingKey tenant text).length = 8 := by
    have hread : "S4T_xbW8BPo".toList.length = 11 := rfl
    omega
  obtain ⟨hkey, rfl, rfl⟩ := eq_of_length hbytes
  simp only [Signing.signature, SignedCallbackCodec.signature, signing, hkey]

end Button

/-- The token of a button with a category and a page. -/
theorem callback_tokens_button :
    Button.codec.decode Button.digest 1700000001 Button.tenantId Button.token =
        .ok { action := .category, entityId := some 5#128, page := some 2 } ∧
      ∀ later other token', Button.codec.decode Button.digest later other Button.token =
        .ok token' → other = Button.tenantId := by
  have hpermitted : Permitted .category (some 5#128) (some 2) :=
    ⟨by decide, fun _ => by decide⟩
  obtain ⟨hwritten, hread⟩ := callback_tokens Button.tellsApart Button.codec
  have hdecode := (hwritten _ _ _ _ _ _ hpermitted Button.encode_button).2.2 Button.codec 1700000001
    rfl rfl (by decide)
  exact ⟨hdecode, (hread _ _ _ _ _ Button.onlySigned hdecode).2⟩

end BusinessAssistant.Presentation
