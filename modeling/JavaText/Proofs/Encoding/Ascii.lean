import JavaText.Encoding.Decode
import JavaText.Encoding.Encode

/-!
# Texts of ASCII in every encoding

Every encoding has a place for the characters of ASCII, so a text of ASCII is encoded whatever the
handler is, and decoding the bytes gives the text back (`Encoding.decode_encode`). Byte order
marks are written and looked for on both sides, so they cancel (`Encoding.settle_byteOrderMark`).
-/

namespace JavaText

namespace Text

/-- A text in which all characters are of ASCII. -/
def IsAscii (t : Text) : Prop :=
  ∀ c ∈ t, c.val < 0x80

@[simp] theorem isAscii_nil : IsAscii [] := by
  simp [IsAscii]

@[simp] theorem isAscii_cons {c : CodePoint} {t : Text} :
    IsAscii (c :: t) ↔ c.val < 0x80 ∧ t.IsAscii := by
  simp [IsAscii]

@[simp] theorem isAscii_append {t u : Text} : IsAscii (t ++ u) ↔ t.IsAscii ∧ u.IsAscii := by
  simp [IsAscii, or_imp, forall_and]

theorem isAscii_of_all {t : Text} (h : t.all (fun c => decide (c.val < 0x80)) = true) : t.IsAscii :=
  fun c hc => of_decide_eq_true (List.all_eq_true.1 h c hc)

end Text

namespace CodePoint

theorem ofNat_val (c : CodePoint) : ofNat c.val = c := by
  simp [ofNat]

theorem isSurrogate_of_lt {c : CodePoint} (h : c.val < 0x80) : c.isSurrogate = false := by
  simp only [isSurrogate, Bool.and_eq_false_iff, decide_eq_false_iff_not]
  omega

end CodePoint

namespace Encoding

/-! ## Code units -/

theorem toNat_ofNat_of_lt {n : Nat} (h : n < 0x100) : (UInt8.ofNat n).toNat = n := by
  rw [UInt8.toNat_ofNat']
  omega

/-- A 16-bit unit is the unit of its two bytes. -/
theorem unitOf_unit16 (order : ByteOrder) {n : Nat} (h : n < 0x10000) :
    ∃ a b, unit16 order n = [a, b] ∧ unitOf order a b = n := by
  have hlow := toNat_ofNat_of_lt (show n % 256 < 0x100 by omega)
  have hhigh := toNat_ofNat_of_lt (show n / 256 < 0x100 by omega)
  cases order with
  | little => exact ⟨_, _, rfl, by rw [unitOf, hlow, hhigh]; omega⟩
  | big => exact ⟨_, _, rfl, by rw [unitOf, hlow, hhigh]; omega⟩

/-- A 32-bit unit is the unit of its four bytes. -/
theorem wideUnitOf_unit32 (order : ByteOrder) {n : Nat} (h : n < 0x100000000) :
    ∃ a b c d, unit32 order n = [a, b, c, d] ∧ wideUnitOf order a b c d = n := by
  have hlow : n % 65536 < 0x10000 := by omega
  have hhigh : n / 65536 < 0x10000 := by omega
  cases order with
  | little =>
    obtain ⟨a, b, hab, hl⟩ := unitOf_unit16 .little hlow
    obtain ⟨c, d, hcd, hh⟩ := unitOf_unit16 .little hhigh
    refine ⟨a, b, c, d, by rw [unit32, hab, hcd]; rfl, ?_⟩
    rw [wideUnitOf, hl, hh]
    omega
  | big =>
    obtain ⟨a, b, hab, hh⟩ := unitOf_unit16 .big hhigh
    obtain ⟨c, d, hcd, hl⟩ := unitOf_unit16 .big hlow
    refine ⟨a, b, c, d, by rw [unit32, hab, hcd]; rfl, ?_⟩
    rw [wideUnitOf, hl, hh]
    omega

/-! ## One character -/

/-- The bytes of a character of ASCII are seen again as this character, whatever follows. -/
theorem sight_charBytes (e : Encoding) {c : CodePoint} (hc : c.val < 0x80) :
    ∃ a rest, e.charBytes? c = some (a :: rest) ∧
      ∀ more : Bytes, e.sight a (rest ++ more) = .char c (rest.length + 1) := by
  have hs := CodePoint.isSurrogate_of_lt hc
  have h256 : c.val < 0x100 := by omega
  have h65536 : c.val < 0x10000 := by omega
  have hn := toNat_ofNat_of_lt h256
  cases e with
  | utf8 =>
    refine ⟨UInt8.ofNat c.val, [], ?_, fun more => ?_⟩
    · simp [charBytes?, rawBytes?, utf8Bytes, hs, hc]
    · simp [sight, sightUtf8, hn, hc, CodePoint.ofNat_val]
  | utf16 order =>
    obtain ⟨a, b, hab, hu⟩ := unitOf_unit16 (order.getD .little) h65536
    refine ⟨a, [b], by simp [charBytes?, rawBytes?, hs, h65536, hab], fun more => ?_⟩
    simp [sight, sightUtf16, hu, CodePoint.ofNat_val, hs]
  | utf32 order =>
    obtain ⟨a, b, x, y, hab, hu⟩ :=
      wideUnitOf_unit32 (order.getD .little) (show c.val < 0x100000000 by omega)
    refine ⟨a, [b, x, y], by simp [charBytes?, rawBytes?, hs, hab], fun more => ?_⟩
    simp [sight, sightUtf32, hu, CodePoint.ofNat_val, hs, c.isLt]
  | latin1 =>
    refine ⟨UInt8.ofNat c.val, [], by simp [charBytes?, h256], fun more => ?_⟩
    simp [sight, hn, CodePoint.ofNat_val]
  | ascii =>
    refine ⟨UInt8.ofNat c.val, [], by simp [charBytes?, hc], fun more => ?_⟩
    simp [sight, hn, hc, CodePoint.ofNat_val]

/-! ## The whole text -/

theorem encodeChars_eq (e : Encoding) (h : Handler) : ∀ {t : Text}, t.IsAscii →
    e.encodeChars h t = .ok (e.asciiBytes t)
  | [], _ => rfl
  | c :: t, ht => by
    rw [Text.isAscii_cons] at ht
    obtain ⟨a, rest, hbytes, -⟩ := e.sight_charBytes ht.1
    have ih := encodeChars_eq e h ht.2
    simp [encodeChars, asciiBytes, hbytes, ih, Except.map]

/-- Every round of the decoder takes the bytes of one character. -/
theorem decodeFrom_asciiBytes (e : Encoding) (h : Handler) : ∀ (t : Text) (fuel : Nat), t.IsAscii →
    (e.asciiBytes t).length ≤ fuel → e.decodeFrom h fuel (e.asciiBytes t) = .ok t
  | [], fuel, _, _ => by simp [asciiBytes, decodeFrom]
  | c :: t, fuel, ht, hfuel => by
    rw [Text.isAscii_cons] at ht
    obtain ⟨a, rest, hbytes, hsight⟩ := e.sight_charBytes ht.1
    have hcons : e.asciiBytes (c :: t) = a :: (rest ++ e.asciiBytes t) := by
      simp [asciiBytes, hbytes]
    rw [hcons] at hfuel ⊢
    simp only [List.length_cons, List.length_append] at hfuel
    obtain ⟨fuel, rfl⟩ : ∃ n, fuel = n + 1 := ⟨fuel - 1, by omega⟩
    have ih := decodeFrom_asciiBytes e h t fuel ht.2 (by omega)
    simp [decodeFrom, hsight, ih, Except.map]

/-- A byte order mark that was written settles the byte order it was written in. -/
theorem settle_byteOrderMark (e : Encoding) (bs : Bytes) :
    ∃ e', e.settle (e.byteOrderMark ++ bs) = (e', bs) ∧ ∀ t, e'.asciiBytes t = e.asciiBytes t := by
  rcases e with _ | (_ | order) | (_ | order) | _ | _
  · exact ⟨utf8, rfl, fun _ => rfl⟩
  · exact ⟨utf16 (some .little), rfl, fun _ => rfl⟩
  · exact ⟨utf16 (some order), rfl, fun _ => rfl⟩
  · exact ⟨utf32 (some .little), rfl, fun _ => rfl⟩
  · exact ⟨utf32 (some order), rfl, fun _ => rfl⟩
  · exact ⟨latin1, rfl, fun _ => rfl⟩
  · exact ⟨ascii, rfl, fun _ => rfl⟩

/-- A text of ASCII is encoded and decoded again, whatever the handler is. -/
theorem decode_encode (e : Encoding) (h : Handler) {t : Text} (ht : t.IsAscii) :
    ∃ bs, e.encode h t = .ok bs ∧ e.decode h bs = .ok t ∧ (t ≠ [] → bs ≠ []) := by
  refine ⟨e.byteOrderMark ++ e.asciiBytes t, ?_, ?_, fun hne => ?_⟩
  · rw [encode, encodeChars_eq e h ht]
    rfl
  · obtain ⟨e', hsettle, hbytes⟩ := e.settle_byteOrderMark (e.asciiBytes t)
    rw [decode, hsettle, ← hbytes]
    exact e'.decodeFrom_asciiBytes h t _ ht (Nat.le_refl _)
  · obtain ⟨c, t, rfl⟩ := List.exists_cons_of_ne_nil hne
    obtain ⟨a, rest, hbytes, -⟩ := e.sight_charBytes (Text.isAscii_cons.1 ht).1
    simp [asciiBytes, hbytes]

end Encoding

end JavaText
