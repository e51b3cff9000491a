/-!
# The order of bytes

Texts are ordered by code points, character by character. Their bytes in UTF-8 are ordered in the
same way: a character is a leading byte, which grows with the code point and with the number of
bytes that follow, and then the digits of the code point to the base 64.
-/

set_option autoImplicit false

namespace BlockLanguage.Text

/-- The bytes of a text in UTF-8. -/
def bytes (text : String) : List UInt8 :=
  text.toUTF8.data.toList

theorem bytes_eq (text : String) : bytes text = text.toList.flatMap String.utf8EncodeChar := by
  rw [bytes, String.toUTF8, ← String.utf8Encode_toList, List.utf8Encode,
    List.toList_data_toByteArray]

/-!
## Characters
-/

/-- The last digits of a code point to the base 64, each in a byte of its own. -/
def continuation : (count : Nat) → (code : Nat) → List UInt8
  | 0, _ => []
  | count + 1, code => continuation count (code / 64) ++ [UInt8.ofNat (code % 64 + 128)]

/-- A code point without that many of its last digits. -/
def withoutDigits : (count : Nat) → (code : Nat) → Nat
  | 0, code => code
  | count + 1, code => withoutDigits count (code / 64)

/-- How many bytes follow the leading byte of a code point. -/
def continuationCount (code : Nat) : Nat :=
  if code ≤ 0x7f then 0 else if code ≤ 0x7ff then 1 else if code ≤ 0xffff then 2 else 3

/-- The leading byte of a code point: its first digit behind a mark of the number of digits. -/
def leadingByte (code : Nat) : Nat :=
  if code ≤ 0x7f then code
  else if code ≤ 0x7ff then code / 64 + 0xc0
  else if code ≤ 0xffff then code / 4096 + 0xe0
  else code / 262144 + 0xf0

private theorem code_lt (character : Char) : character.val.toNat < 0x110000 := by
  rcases character.valid with below | ⟨_, above⟩
  · have below : character.val.toNat < 0xd800 := below
    omega
  · exact above

theorem utf8EncodeChar_eq (character : Char) :
    String.utf8EncodeChar character =
      UInt8.ofNat (leadingByte character.val.toNat) ::
        continuation (continuationCount character.val.toNat) character.val.toNat := by
  have bound := code_lt character
  unfold String.utf8EncodeChar leadingByte continuationCount
  generalize character.val.toNat = code at bound ⊢
  by_cases one : code ≤ 0x7f
  · simp [one, continuation]
  · by_cases two : code ≤ 0x7ff
    · have digit : code / 64 % 32 = code / 64 := by omega
      simp [one, two, continuation, digit]
    · by_cases three : code ≤ 0xffff
      · have digit : code / 4096 % 16 = code / 4096 := by omega
        simp [one, two, three, continuation, digit]
      · have digit : code / 262144 % 8 = code / 262144 := by omega
        simp [one, two, three, continuation, digit, Nat.div_div_eq_div_mul]

/-- Code points with the same first digits are ordered by their last ones. -/
theorem continuation_append_lt {count first second : Nat} (less : first < second)
    (same : withoutDigits count first = withoutDigits count second)
    (behind after : List UInt8) :
    continuation count first ++ behind < continuation count second ++ after := by
  induction count generalizing first second behind after with
  | zero => exact absurd same (Nat.ne_of_lt less)
  | succ count ih =>
      rw [continuation, continuation, List.append_assoc, List.append_assoc]
      rcases Nat.lt_or_eq_of_le (Nat.div_le_div_right (c := 64) (Nat.le_of_lt less)) with
        smaller | equal
      · exact ih smaller same _ _
      · -- all digits but the last ones are the same
        rw [equal]
        apply List.append_left_lt
        apply List.cons_lt_cons_iff.mpr
        apply Or.inl
        rw [UInt8.lt_iff_toNat_lt]
        simp only [UInt8.toNat_ofNat']
        omega

/-- A greater code point has a greater leading byte, or else it has as many digits and the same
first one. -/
theorem leadingByte_lt_or_eq {first second : Nat} (less : first < second) :
    leadingByte first < leadingByte second ∨
      leadingByte first = leadingByte second ∧
        continuationCount first = continuationCount second ∧
        withoutDigits (continuationCount first) first =
          withoutDigits (continuationCount first) second := by
  unfold leadingByte continuationCount
  repeat' split
  all_goals
    simp only [withoutDigits, true_and]
    omega

theorem leadingByte_lt (character : Char) : leadingByte character.val.toNat < 256 := by
  have bound := code_lt character
  unfold leadingByte
  repeat' split
  all_goals omega

/-- The bytes of a greater character are greater, whatever comes behind them. -/
theorem encoded_append_lt {first second : Char} (less : first < second)
    (behind after : List UInt8) :
    String.utf8EncodeChar first ++ behind < String.utf8EncodeChar second ++ after := by
  have less : first.val.toNat < second.val.toNat := less
  have firstByte := leadingByte_lt first
  have secondByte := leadingByte_lt second
  rw [utf8EncodeChar_eq, utf8EncodeChar_eq, List.cons_append, List.cons_append,
    List.cons_lt_cons_iff, UInt8.lt_iff_toNat_lt, ← UInt8.toNat_inj]
  simp only [UInt8.toNat_ofNat']
  rcases leadingByte_lt_or_eq less with byte | ⟨sameByte, sameCount, sameDigit⟩
  · apply Or.inl
    omega
  · rw [sameByte, ← sameCount]
    exact .inr ⟨rfl, continuation_append_lt less sameDigit behind after⟩

/-!
## Texts
-/

theorem encoded_lt {first second : List Char} (less : first < second) :
    first.flatMap String.utf8EncodeChar < second.flatMap String.utf8EncodeChar := by
  induction first generalizing second with
  | nil =>
      cases second with
      | nil => exact absurd less (List.lt_irrefl [])
      | cons character second =>
          rw [List.flatMap_nil, List.flatMap_cons, utf8EncodeChar_eq, List.cons_append]
          exact List.nil_lt_cons _ _
  | cons character first ih =>
      cases second with
      | nil => exact absurd less (List.not_lt_nil _)
      | cons other second =>
          rw [List.flatMap_cons, List.flatMap_cons]
          rcases List.cons_lt_cons_iff.mp less with smaller | ⟨rfl, others⟩
          · exact encoded_append_lt smaller _ _
          · exact List.append_left_lt (ih others)

/-- The order of texts is the order of their bytes. -/
theorem bytes_lt_iff {first second : String} : bytes first < bytes second ↔ first < second := by
  rw [bytes_eq, bytes_eq]
  constructor
  · intro less
    apply Decidable.byContradiction
    intro notLess
    by_cases greater : second < first
    · exact List.lt_asymm less (encoded_lt greater)
    · obtain rfl := String.le_antisymm (String.not_lt.mp greater) (String.not_lt.mp notLess)
      exact List.lt_irrefl _ less
  · exact encoded_lt

end BlockLanguage.Text
