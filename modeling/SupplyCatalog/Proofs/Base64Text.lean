import SupplyCatalog.Proofs.PlainText

/-!
# Bytes in base64

A text in base64 stands for the bytes that are written as it, and for no others; a text as which no
bytes are written stands for nothing.
-/

namespace SupplyCatalog.Text.Base64

/-! ## Digits -/

theorem value_of_digit {value : Nat} (small : value < 64) : value? (digit value) = some value := by
  have all : ∀ value ∈ List.range 64, value? (digit value) = some value := by decide
  exact all value (List.mem_range.2 small)

theorem digit_ne_padding {value : Nat} (small : value < 64) : digit value ≠ '=' := by
  intro same
  have read := value_of_digit small
  rw [same] at read
  cases read

theorem digit_is_not_blank {value : Nat} (small : value < 64) :
    isBlank (digit value) = false := by
  have all : ∀ value ∈ List.range 64, isBlank (digit value) = false := by decide
  exact all value (List.mem_range.2 small)

theorem digit_of_value {c : Char} {value : Nat} (read : value? c = some value) :
    value < 64 ∧ digit value = c := by
  have itself {code : Nat} (same : code = c.toNat) : Char.ofNat code = c := by
    rw [same, Char.ofNat_toNat]
  unfold value? at read
  simp only [between_iff] at read
  split at read
  · rename_i capital
    obtain rfl := Option.some.inj read
    simp at capital
    refine ⟨by omega, ?_⟩
    rw [digit, if_pos (by omega)]
    exact itself (by omega)
  · split at read
    · rename_i small
      obtain rfl := Option.some.inj read
      simp at small
      refine ⟨by omega, ?_⟩
      rw [digit, if_neg (by omega), if_pos (by omega)]
      exact itself (by omega)
    · split at read
      · rename_i number
        obtain rfl := Option.some.inj read
        simp at number
        refine ⟨by omega, ?_⟩
        rw [digit, if_neg (by omega), if_neg (by omega), if_pos (by omega)]
        exact itself (by omega)
      · split at read
        · rename_i plus
          obtain rfl := Option.some.inj read
          exact ⟨by decide, plus ▸ rfl⟩
        · split at read
          · rename_i slash
            obtain rfl := Option.some.inj read
            exact ⟨by decide, slash ▸ rfl⟩
          · cases read

/-! ## Groups of four -/

theorem encode_is_not_blank (bytes : List UInt8) : ∀ c ∈ encode bytes, isBlank c = false := by
  have padding : isBlank '=' = false := by decide
  fun_induction encode bytes with
  | case1 => exact List.forall_mem_nil _
  | case2 a =>
      have bound := a.toNat_lt
      simp only [List.forall_mem_cons]
      exact ⟨digit_is_not_blank (by omega), digit_is_not_blank (by omega), padding, padding,
        List.forall_mem_nil _⟩
  | case3 a b =>
      have first := a.toNat_lt
      have second := b.toNat_lt
      simp only [List.forall_mem_cons]
      exact ⟨digit_is_not_blank (by omega), digit_is_not_blank (by omega),
        digit_is_not_blank (by omega), padding, List.forall_mem_nil _⟩
  | case4 a b c rest induction =>
      have first := a.toNat_lt
      have second := b.toNat_lt
      have third := c.toNat_lt
      simp only [List.forall_mem_cons]
      exact ⟨digit_is_not_blank (by omega), digit_is_not_blank (by omega),
        digit_is_not_blank (by omega), digit_is_not_blank (by omega), induction⟩

theorem decode_encode (bytes : List UInt8) : decode? (encode bytes) = some bytes := by
  fun_induction encode bytes with
  | case1 => rfl
  | case2 a =>
      have bound := a.toNat_lt
      rw [decode?.eq_2, value_of_digit (by omega), value_of_digit (by omega)]
      have whole : a.toNat / 4 * 4 + a.toNat % 4 * 16 / 16 = a.toNat := by omega
      have clean : a.toNat % 4 * 16 % 16 = 0 := by omega
      simp only [Option.bind_eq_bind, Option.bind_some, whole, clean, if_true, UInt8.ofNat_toNat]
      rfl
  | case3 a b =>
      have first := a.toNat_lt
      have second := b.toNat_lt
      rw [decode?.eq_3 _ _ _ (digit_ne_padding (by omega)), value_of_digit (by omega),
        value_of_digit (by omega), value_of_digit (by omega)]
      have left :
          a.toNat / 4 * 4 + (a.toNat % 4 * 16 + b.toNat / 16) / 16 = a.toNat := by omega
      have right :
          (a.toNat % 4 * 16 + b.toNat / 16) % 16 * 16 + b.toNat % 16 * 4 / 4 = b.toNat := by omega
      have clean : b.toNat % 16 * 4 % 4 = 0 := by omega
      simp only [Option.bind_eq_bind, Option.bind_some, left, right, clean, if_true,
        UInt8.ofNat_toNat]
      rfl
  | case4 a b c rest induction =>
      have first := a.toNat_lt
      have second := b.toNat_lt
      have third := c.toNat_lt
      have noPadding : digit (c.toNat % 64) ≠ '=' := digit_ne_padding (by omega)
      rw [decode?.eq_4 _ _ _ _ _ (fun _ same => absurd same noPadding)
        (fun same => absurd same noPadding), value_of_digit (by omega), value_of_digit (by omega),
        value_of_digit (by omega), value_of_digit (by omega), induction]
      have left :
          a.toNat / 4 * 4 + (a.toNat % 4 * 16 + b.toNat / 16) / 16 = a.toNat := by omega
      have middle : (a.toNat % 4 * 16 + b.toNat / 16) % 16 * 16 +
          (b.toNat % 16 * 4 + c.toNat / 64) / 4 = b.toNat := by omega
      have right :
          (b.toNat % 16 * 4 + c.toNat / 64) % 4 * 64 + c.toNat % 64 = c.toNat := by omega
      simp only [Option.bind_eq_bind, Option.bind_some, left, middle, right, UInt8.ofNat_toNat]
      rfl

theorem encode_of_decode {chars : List Char} {bytes : List UInt8}
    (decoded : decode? chars = some bytes) : encode bytes = chars := by
  have toNat {value : Nat} (small : value < 256) : (UInt8.ofNat value).toNat = value :=
    UInt8.toNat_ofNat_of_lt' small
  induction chars using decode?.induct generalizing bytes with
  | case1 =>
      obtain rfl := Option.some.inj decoded
      rfl
  | case2 w x =>
      rw [decode?.eq_2] at decoded
      simp only [Option.bind_eq_bind, Option.bind_eq_some_iff] at decoded
      obtain ⟨first, isFirst, second, isSecond, bytesRead⟩ := decoded
      obtain ⟨firstSmall, rfl⟩ := digit_of_value isFirst
      obtain ⟨secondSmall, rfl⟩ := digit_of_value isSecond
      split at bytesRead
      · rename_i clean
        obtain rfl := Option.some.inj bytesRead
        have left : (first * 4 + second / 16) / 4 = first := by omega
        have right : (first * 4 + second / 16) % 4 * 16 = second := by omega
        rw [encode, toNat (by omega), left, right]
      · cases bytesRead
  | case3 w x y noPadding =>
      rw [decode?.eq_3 _ _ _ noPadding] at decoded
      simp only [Option.bind_eq_bind, Option.bind_eq_some_iff] at decoded
      obtain ⟨first, isFirst, second, isSecond, third, isThird, bytesRead⟩ := decoded
      obtain ⟨firstSmall, rfl⟩ := digit_of_value isFirst
      obtain ⟨secondSmall, rfl⟩ := digit_of_value isSecond
      obtain ⟨thirdSmall, rfl⟩ := digit_of_value isThird
      split at bytesRead
      · rename_i clean
        obtain rfl := Option.some.inj bytesRead
        have left : (first * 4 + second / 16) / 4 = first := by omega
        have middle : (first * 4 + second / 16) % 4 * 16 +
            (second % 16 * 16 + third / 4) / 16 = second := by omega
        have right : (second % 16 * 16 + third / 4) % 16 * 4 = third := by omega
        rw [encode, toNat (by omega), toNat (by omega), left, middle, right]
      · cases bytesRead
  | case4 w x y z rest notTwo notOne induction =>
      rw [decode?.eq_4 _ _ _ _ _ notTwo notOne] at decoded
      simp only [Option.bind_eq_bind, Option.bind_eq_some_iff] at decoded
      obtain ⟨first, isFirst, second, isSecond, third, isThird, fourth, isFourth, later, further,
        same⟩ := decoded
      obtain ⟨firstSmall, rfl⟩ := digit_of_value isFirst
      obtain ⟨secondSmall, rfl⟩ := digit_of_value isSecond
      obtain ⟨thirdSmall, rfl⟩ := digit_of_value isThird
      obtain ⟨fourthSmall, rfl⟩ := digit_of_value isFourth
      obtain rfl := Option.some.inj same
      have left : (first * 4 + second / 16) / 4 = first := by omega
      have middle : (first * 4 + second / 16) % 4 * 16 +
          (second % 16 * 16 + third / 4) / 16 = second := by omega
      have right : (second % 16 * 16 + third / 4) % 16 * 4 + (third % 4 * 64 + fourth) / 64 =
          third := by omega
      have last : (third % 4 * 64 + fourth) % 64 = fourth := by omega
      rw [encode, toNat (by omega), toNat (by omega), toNat (by omega), left, middle, right, last,
        induction further]
  | case5 chars notEmpty notTwo notOne notFour =>
      unfold decode? at decoded
      split at decoded
      · exact (notEmpty rfl).elim
      · exact (notTwo _ _ rfl).elim
      · exact (notOne _ _ _ rfl).elim
      · exact (notFour _ _ _ _ _ rfl).elim
      · cases decoded

/-- There is one text for any bytes, and it is what has to be written for them. -/
theorem decode_eq_some_iff (chars : List Char) (bytes : List UInt8) :
    decode? chars = some bytes ↔ chars = encode bytes :=
  ⟨fun decoded => (encode_of_decode decoded).symm, fun same => same ▸ decode_encode bytes⟩

theorem encode_injective {first second : List UInt8} (same : encode first = encode second) :
    first = second := by
  have decoded := congrArg decode? same
  rwa [decode_encode, decode_encode, Option.some.injEq] at decoded

/-- There is nothing to cut off bytes that are written. -/
theorem trim_encode (bytes : List UInt8) :
    trim (String.ofList (encode bytes)) = String.ofList (encode bytes) := by
  apply (is_trimmed_of_no_blank ?_).trim_eq
  rw [String.toList_ofList]
  exact encode_is_not_blank bytes

end SupplyCatalog.Text.Base64
