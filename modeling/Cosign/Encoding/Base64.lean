import Cosign.Encoding.Utf8

/-!
# Base64 round trip

Decoding the standard encoding of a byte string returns it (`Base64.stdDecode_stdEncode`). The
alphabet is checked value by value, and the quanta are put together by arithmetic on their bits.
-/
namespace Cosign.Encoding.Base64

/-- Every character of the alphabet stands for its six bits, and is neither padding nor a line
break. -/
theorem stdChar_facts : ∀ value < 64, stdSextet (stdChar value) = some value ∧
    stdChar value ≠ '=' ∧ stdChar value ≠ '\n' ∧ stdChar value ≠ '\r' := by
  decide +kernel

theorem stdSextet_stdChar {value : Nat} (small : value < 64) :
    stdSextet (stdChar value) = some value :=
  (stdChar_facts value small).1

theorem stdChar_ne_pad {value : Nat} (small : value < 64) : stdChar value ≠ '=' :=
  (stdChar_facts value small).2.1

theorem ofNat_eq {value : Nat} {byte : UInt8} (same : value = byte.toNat) :
    UInt8.ofNat value = byte := by
  rw [same, UInt8.ofNat_toNat]

/-- Decoding the quanta of a byte string returns the byte string. -/
theorem decodeQuanta_encodeQuanta (bytes : Bytes) :
    decodeQuanta stdSextet (encodeQuanta bytes) = some bytes := by
  fun_induction encodeQuanta bytes with
  | case1 => rfl
  | case2 a =>
    have bound := a.toNat_lt
    have first : UInt8.ofNat (a.toNat / 4 * 4 + a.toNat % 4 * 16 / 16) = a :=
      ofNat_eq (by omega)
    simp only [decodeQuanta, bind, Option.bind, ne_eq, not_true_eq_false, if_true, if_false,
      stdSextet_stdChar (show a.toNat / 4 < 64 by omega),
      stdSextet_stdChar (show a.toNat % 4 * 16 < 64 by omega), first]
  | case3 a b =>
    have bound := a.toNat_lt
    have bound' := b.toNat_lt
    have first : UInt8.ofNat (a.toNat / 4 * 4 + (a.toNat % 4 * 16 + b.toNat / 16) / 16) = a :=
      ofNat_eq (by omega)
    have second : UInt8.ofNat ((a.toNat % 4 * 16 + b.toNat / 16) % 16 * 16 +
        b.toNat % 16 * 4 / 4) = b := ofNat_eq (by omega)
    simp only [decodeQuanta, bind, Option.bind, ne_eq, not_true_eq_false, if_true, if_false,
      stdSextet_stdChar (show a.toNat / 4 < 64 by omega),
      stdSextet_stdChar (show a.toNat % 4 * 16 + b.toNat / 16 < 64 by omega),
      stdSextet_stdChar (show b.toNat % 16 * 4 < 64 by omega),
      stdChar_ne_pad (show b.toNat % 16 * 4 < 64 by omega), first, second]
  | case4 a b c rest ih =>
    have bound := a.toNat_lt
    have bound' := b.toNat_lt
    have bound'' := c.toNat_lt
    have first : UInt8.ofNat (a.toNat / 4 * 4 + (a.toNat % 4 * 16 + b.toNat / 16) / 16) = a :=
      ofNat_eq (by omega)
    have second : UInt8.ofNat ((a.toNat % 4 * 16 + b.toNat / 16) % 16 * 16 +
        (b.toNat % 16 * 4 + c.toNat / 64) / 4) = b := ofNat_eq (by omega)
    have third : UInt8.ofNat ((b.toNat % 16 * 4 + c.toNat / 64) % 4 * 64 + c.toNat % 64) = c :=
      ofNat_eq (by omega)
    simp only [decodeQuanta, bind, Option.bind, if_false,
      stdSextet_stdChar (show a.toNat / 4 < 64 by omega),
      stdSextet_stdChar (show a.toNat % 4 * 16 + b.toNat / 16 < 64 by omega),
      stdSextet_stdChar (show b.toNat % 16 * 4 + c.toNat / 64 < 64 by omega),
      stdSextet_stdChar (show c.toNat % 64 < 64 by omega),
      stdChar_ne_pad (show c.toNat % 64 < 64 by omega), ih, first, second, third]

theorem encodeQuanta_no_break (bytes : Bytes) :
    ∀ char ∈ encodeQuanta bytes, char ≠ '\n' ∧ char ≠ '\r' := by
  have alphabet : ∀ value < 64, stdChar value ≠ '\n' ∧ stdChar value ≠ '\r' :=
    fun value small => (stdChar_facts value small).2.2
  fun_induction encodeQuanta bytes with
  | case1 => simp
  | case2 a =>
    have bound := a.toNat_lt
    simp only [List.forall_mem_cons]
    exact ⟨alphabet _ (by omega), alphabet _ (by omega), by decide, by decide, by simp⟩
  | case3 a b =>
    have bound := a.toNat_lt
    have bound' := b.toNat_lt
    simp only [List.forall_mem_cons]
    exact ⟨alphabet _ (by omega), alphabet _ (by omega), alphabet _ (by omega), by decide,
      by simp⟩
  | case4 a b c rest ih =>
    have bound := a.toNat_lt
    have bound' := b.toNat_lt
    have bound'' := c.toNat_lt
    simp only [List.forall_mem_cons]
    exact ⟨alphabet _ (by omega), alphabet _ (by omega), alphabet _ (by omega),
      alphabet _ (by omega), ih⟩

/-- Decoding the encoding of a byte string returns the byte string. -/
@[simp] theorem stdDecode_stdEncode (bytes : Bytes) :
    stdDecode (stdEncode bytes) = some bytes := by
  have unbroken : dropBreaks (stdEncode bytes) = encodeQuanta bytes := by
    rw [dropBreaks, runes_eq, stdEncode, String.toList_ofList, List.filter_eq_self]
    intro char member
    have plain := encodeQuanta_no_break bytes char member
    simp [plain.1, plain.2]
  rw [stdDecode, unbroken, decodeQuanta_encodeQuanta]

theorem stdDecodeRaw_utf8Bytes (text : String) :
    stdDecodeRaw (utf8Bytes text) = stdDecode text := rfl

/-- A text that starts with a dash, as every PEM text does, is no base64. -/
theorem stdDecodeRaw_dash (rest : Bytes) : stdDecodeRaw (45 :: rest) = none := by
  have starts : utf8Runes (45 :: rest) = '-' :: utf8Runes rest :=
    utf8Runes_encode_one (show 45 ≤ 0x7F by decide) rest
  have kept : ('-' ≠ '\n' && '-' ≠ '\r') = true := by decide
  unfold stdDecodeRaw
  rw [starts, List.filter_cons, if_pos kept]
  generalize (utf8Runes rest).filter _ = others
  -- Either the first quantum is cut short, or its first character is outside the alphabet.
  rcases others with _ | ⟨second, _ | ⟨third, _ | ⟨fourth, others⟩⟩⟩ <;> rfl

end Cosign.Encoding.Base64
