import QueryGateway.Proofs.Text.Utf8
import QueryGateway.Text.Hex

/-!
Decoding undoes percent encoding.

An encoding may leave what characters it likes as they are, save the percent sign and those that
end a segment or a path, and it may write its digits in either case.
-/

namespace QueryGateway.Text

/-- A percent encoding for segments of paths: the characters that stand for themselves, and the
digits for the bytes of all others. -/
structure PercentEncoding where
  plain : Char → Bool
  digit : Nat → Char
  percent : plain '%' = false
  slash : plain '/' = false
  question : plain '?' = false
  digits : ∀ n < 16, hexDigit? (digit n) = some n

namespace PercentEncoding

variable (e : PercentEncoding)

/-- The escape of a byte. -/
def escape (b : UInt8) : List Char := ['%', e.digit (b.toNat / 16), e.digit (b.toNat % 16)]

def encodeChar (c : Char) : List Char :=
  if e.plain c then [c] else (Utf8.encodeChar c).flatMap e.escape

def encode (s : List Char) : List Char := s.flatMap e.encodeChar

/-- Only ASCII letters and digits stand for themselves, and digits are in upper case. -/
def alphanumeric : PercentEncoding where
  plain := Char.isAlphanum
  digit n := Char.ofNat (if n < 10 then 0x30 + n else 0x37 + n)
  percent := by decide
  slash := by decide
  question := by decide
  digits := by decide

end PercentEncoding

/-! ## Bytes -/

theorem toNat_lt_of_hexDigit? {c : Char} {n : Nat} (h : hexDigit? c = some n) :
    c.toNat < 0x80 := by
  rw [hexDigit?] at h
  split at h
  · rename_i hc
    exact Nat.lt_of_le_of_lt hc.2 (by decide)
  split at h
  · rename_i hc
    exact Nat.lt_of_le_of_lt hc.2 (by decide)
  split at h
  · rename_i hc
    exact Nat.lt_of_le_of_lt hc.2 (by decide)
  · cases h

/-- No byte of a character is a percent sign but the one of the percent sign. -/
theorem ne_percent_of_mem_encodeChar {c : Char} {b : UInt8} (hc : c ≠ '%')
    (hb : b ∈ Utf8.encodeChar c) : b.toNat ≠ 0x25 := by
  have hne : c.toNat ≠ 0x25 := fun h => hc (Char.toNat_inj.mp h)
  by_cases hlt : c.toNat < 0x80
  · rw [Utf8.encodeChar_of_lt hlt, List.mem_singleton] at hb
    rw [hb, Utf8.toNat_ofNat (by omega)]
    exact hne
  · have hlong := Utf8.le_of_mem_encodeChar (by omega) hb
    omega

theorem percentDecodeBytes_cons {a : UInt8} (h : a.toNat ≠ 0x25) (rest : List UInt8) :
    percentDecodeBytes (a :: rest) = a :: percentDecodeBytes rest := by
  match rest with
  | [] => rfl
  | [b] => rfl
  | b :: c :: rest => rw [percentDecodeBytes, if_neg h]

theorem percentDecodeBytes_append {bytes : List UInt8} (h : ∀ b ∈ bytes, b.toNat ≠ 0x25)
    (rest : List UInt8) :
    percentDecodeBytes (bytes ++ rest) = bytes ++ percentDecodeBytes rest := by
  induction bytes with
  | nil => rfl
  | cons b bytes ih =>
    rw [List.cons_append, percentDecodeBytes_cons (h b List.mem_cons_self),
      ih fun b hb => h b (List.mem_cons_of_mem _ hb), List.cons_append]

theorem hexByte?_ofNat {c : Char} {n : Nat} (h : hexDigit? c = some n) :
    hexByte? (UInt8.ofNat c.toNat) = some n := by
  have hlt := toNat_lt_of_hexDigit? h
  rw [hexByte?, Utf8.toNat_ofNat (by omega), Char.ofNat_toNat, h]

namespace PercentEncoding

variable (e : PercentEncoding)

theorem percentDecodeBytes_escape (b : UInt8) (rest : List UInt8) :
    percentDecodeBytes (Utf8.encode (e.escape b) ++ rest) = b :: percentDecodeBytes rest := by
  have hb : b.toNat < 256 := UInt8.toNat_lt_size b
  have hhigh := e.digits (b.toNat / 16) (by omega)
  have hlow := e.digits (b.toNat % 16) (by omega)
  have hbytes : Utf8.encode (e.escape b) =
      [0x25, UInt8.ofNat (e.digit (b.toNat / 16)).toNat,
        UInt8.ofNat (e.digit (b.toNat % 16)).toNat] := by
    rw [Utf8.encode, escape, List.flatMap_cons, List.flatMap_cons, List.flatMap_cons,
      Utf8.encodeChar_of_lt (toNat_lt_of_hexDigit? hhigh),
      Utf8.encodeChar_of_lt (toNat_lt_of_hexDigit? hlow)]
    rfl
  have hvalue : b.toNat / 16 * 16 + b.toNat % 16 = b.toNat := Nat.div_add_mod' b.toNat 16
  rw [hbytes, List.cons_append, List.cons_append, List.singleton_append, percentDecodeBytes,
    if_pos (by decide), hexByte?_ofNat hhigh, hexByte?_ofNat hlow]
  simp only [hvalue, UInt8.ofNat_toNat]

theorem percentDecodeBytes_encodeChar (c : Char) (rest : List UInt8) :
    percentDecodeBytes (Utf8.encode (e.encodeChar c) ++ rest) =
      Utf8.encodeChar c ++ percentDecodeBytes rest := by
  rw [encodeChar]
  split
  · rename_i hplain
    have hc : c ≠ '%' := by
      rintro rfl
      rw [e.percent] at hplain
      cases hplain
    rw [Utf8.encode, List.flatMap_singleton]
    exact percentDecodeBytes_append (fun b hb => ne_percent_of_mem_encodeChar hc hb) rest
  · induction Utf8.encodeChar c with
    | nil => rfl
    | cons b bytes ih =>
      rw [List.flatMap_cons, Utf8.encode_append, List.append_assoc, e.percentDecodeBytes_escape, ih,
        List.cons_append]

theorem percentDecodeBytes_encode (s : List Char) :
    percentDecodeBytes (Utf8.encode (e.encode s)) = Utf8.encode s := by
  induction s with
  | nil => rfl
  | cons c s ih =>
    rw [encode, List.flatMap_cons, Utf8.encode_append, percentDecodeBytes_encodeChar]
    exact congrArg _ ih

/-- Decoding gives back every text. -/
theorem percentDecode_encode (s : List Char) : percentDecode (e.encode s) = s := by
  rw [percentDecode, e.percentDecodeBytes_encode, Utf8.decodeLossy_encode]

/-! ## What does not occur in an encoding -/

theorem not_mem_encode {c : Char} (hplain : e.plain c = false) (hpercent : c ≠ '%')
    (hdigit : hexDigit? c = none) (s : List Char) : c ∉ e.encode s := by
  intro hmem
  obtain ⟨d, -, hd⟩ := List.mem_flatMap.mp hmem
  rw [encodeChar] at hd
  split at hd
  · rename_i hkept
    obtain rfl := List.mem_singleton.mp hd
    rw [hplain] at hkept
    cases hkept
  · obtain ⟨b, -, hb⟩ := List.mem_flatMap.mp hd
    have hsize : b.toNat < 256 := UInt8.toNat_lt_size b
    have hhigh := e.digits (b.toNat / 16) (by omega)
    have hlow := e.digits (b.toNat % 16) (by omega)
    simp only [escape, List.mem_cons, List.not_mem_nil, or_false] at hb
    rcases hb with rfl | rfl | rfl
    · exact hpercent rfl
    · rw [hhigh] at hdigit
      cases hdigit
    · rw [hlow] at hdigit
      cases hdigit

theorem slash_not_mem_encode (s : List Char) : '/' ∉ e.encode s :=
  e.not_mem_encode e.slash (by decide) (by decide) s

theorem question_not_mem_encode (s : List Char) : '?' ∉ e.encode s :=
  e.not_mem_encode e.question (by decide) (by decide) s

theorem encode_ne_nil {s : List Char} (h : s ≠ []) : e.encode s ≠ [] := by
  -- What decodes to a text that is not empty is not empty itself.
  intro hnil
  have hdecoded := e.percentDecode_encode s
  rw [hnil] at hdecoded
  exact h hdecoded.symm

end PercentEncoding
end QueryGateway.Text
