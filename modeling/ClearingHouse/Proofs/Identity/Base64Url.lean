import ClearingHouse.Signature.Base64Url

/-!
# Base 64 is read back

Every list of bytes is read back from its letters, also where one or two bytes are left
over.  None of the letters is the point that stands between the parts of a token.
-/

namespace ClearingHouse.Signature.Base64Url

theorem value?_letter (value : Nat) (small : value < 64) :
    value? (letter value) = some value := by
  have all : ∀ value < 64, value? (letter value) = some value := by decide +kernel
  exact all value small

theorem letter_ne_point {value : Nat} (small : value < 64) : letter value ≠ '.' := by
  have all : ∀ value < 64, letter value ≠ '.' := by decide +kernel
  exact all value small

/-- A byte is put together again from the parts that two letters hold of it. -/
theorem byte_of_parts {byte : UInt8} {number : Nat} (isByte : number = byte.toNat) :
    UInt8.ofNat number = byte := by
  rw [isByte, UInt8.ofNat_toNat]

theorem decode?_encode (bytes : List UInt8) : decode? (encode bytes) = some bytes := by
  fun_induction encode bytes with
  | case1 => rfl
  | case2 first =>
      have ofFirst := first.toNat_lt
      have isFirst : UInt8.ofNat (first.toNat / 4 * 4 + first.toNat % 4 * 16 / 16) = first :=
        byte_of_parts (by omega)
      have noRest : first.toNat % 4 * 16 % 16 = 0 := by omega
      simp only [decode?, value?_letter (first.toNat / 4) (by omega),
        value?_letter (first.toNat % 4 * 16) (by omega), Option.bind_eq_bind,
        Option.bind_some, noRest, if_true, isFirst]
  | case3 first second =>
      have ofFirst := first.toNat_lt
      have ofSecond := second.toNat_lt
      have isFirst : UInt8.ofNat (first.toNat / 4 * 4 +
          (first.toNat % 4 * 16 + second.toNat / 16) / 16) = first :=
        byte_of_parts (by omega)
      have isSecond : UInt8.ofNat ((first.toNat % 4 * 16 + second.toNat / 16) % 16 * 16 +
          second.toNat % 16 * 4 / 4) = second :=
        byte_of_parts (by omega)
      have noRest : second.toNat % 16 * 4 % 4 = 0 := by omega
      simp only [decode?, value?_letter (first.toNat / 4) (by omega),
        value?_letter (first.toNat % 4 * 16 + second.toNat / 16) (by omega),
        value?_letter (second.toNat % 16 * 4) (by omega), Option.bind_eq_bind,
        Option.bind_some, noRest, if_true, isFirst, isSecond]
  | case4 first second third rest ih =>
      have ofFirst := first.toNat_lt
      have ofSecond := second.toNat_lt
      have ofThird := third.toNat_lt
      have isFirst : UInt8.ofNat (first.toNat / 4 * 4 +
          (first.toNat % 4 * 16 + second.toNat / 16) / 16) = first :=
        byte_of_parts (by omega)
      have isSecond : UInt8.ofNat ((first.toNat % 4 * 16 + second.toNat / 16) % 16 * 16 +
          (second.toNat % 16 * 4 + third.toNat / 64) / 4) = second :=
        byte_of_parts (by omega)
      have isThird : UInt8.ofNat ((second.toNat % 16 * 4 + third.toNat / 64) % 4 * 64 +
          third.toNat % 64) = third :=
        byte_of_parts (by omega)
      simp only [decode?, value?_letter (first.toNat / 4) (by omega),
        value?_letter (first.toNat % 4 * 16 + second.toNat / 16) (by omega),
        value?_letter (second.toNat % 16 * 4 + third.toNat / 64) (by omega),
        value?_letter (third.toNat % 64) (by omega), ih, Option.bind_eq_bind,
        Option.bind_some, isFirst, isSecond, isThird]

theorem not_point_mem_encode (bytes : List UInt8) : '.' ∉ encode bytes := by
  fun_induction encode bytes with
  | case1 => simp
  | case2 first =>
      have ofFirst := first.toNat_lt
      simp only [List.mem_cons, List.not_mem_nil, or_false, not_or]
      exact ⟨(letter_ne_point (by omega)).symm, (letter_ne_point (by omega)).symm⟩
  | case3 first second =>
      have ofFirst := first.toNat_lt
      have ofSecond := second.toNat_lt
      simp only [List.mem_cons, List.not_mem_nil, or_false, not_or]
      exact ⟨(letter_ne_point (by omega)).symm, (letter_ne_point (by omega)).symm,
        (letter_ne_point (by omega)).symm⟩
  | case4 first second third rest ih =>
      have ofFirst := first.toNat_lt
      have ofSecond := second.toNat_lt
      have ofThird := third.toNat_lt
      simp only [List.mem_cons, not_or]
      exact ⟨(letter_ne_point (by omega)).symm, (letter_ne_point (by omega)).symm,
        (letter_ne_point (by omega)).symm, (letter_ne_point (by omega)).symm, ih⟩

end ClearingHouse.Signature.Base64Url
