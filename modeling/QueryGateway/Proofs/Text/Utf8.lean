import QueryGateway.Text.Utf8

/-!
Decoding undoes encoding.

A character is encoded in one to four bytes.  The first byte says how many there are, and the
bytes after it hold six bits each, so each length is read back by itself.  The first byte is
none that continues a character, so a word is found in a text where its bytes are
(`encode_isPrefix_iff`).
-/

namespace QueryGateway.Text.Utf8

theorem toNat_ofNat {n : Nat} (h : n < 256) : (UInt8.ofNat n).toNat = n :=
  UInt8.toNat_ofNat_of_lt h

theorem isContinuation_ofNat {n : Nat} (h : n < 64) :
    isContinuation (UInt8.ofNat (0x80 + n)) = true := by
  have hbyte : (UInt8.ofNat (0x80 + n)).toNat = 0x80 + n := toNat_ofNat (by omega)
  rw [isContinuation, hbyte, Bool.and_eq_true, decide_eq_true_eq, decide_eq_true_eq]
  omega

theorem low_ofNat {n : Nat} (h : n < 64) : low (UInt8.ofNat (0x80 + n)) = n := by
  rw [low, toNat_ofNat (by omega)]
  omega

/-! ## One character -/

theorem parts_one {a : UInt8} (ha : a.toNat < 0x80) (rest : List UInt8) :
    parts (a :: rest) = some (Char.ofNat a.toNat) :: parts rest := by
  rw [parts.eq_def]
  simp only [ha, if_true]

theorem parts_two {a b : UInt8} (hmin : 0xc2 ≤ a.toNat) (hmax : a.toNat < 0xe0)
    (hb : isContinuation b = true) (rest : List UInt8) :
    parts (a :: b :: rest) =
      some (Char.ofNat (a.toNat % 32 * 64 + low b)) :: parts rest := by
  have h1 : ¬a.toNat < 0x80 := by omega
  have h2 : ¬a.toNat < 0xc2 := by omega
  rw [parts.eq_def]
  simp only [h1, h2, hmax, hb, if_true, if_false]

theorem parts_three {a b c : UInt8} (hmin : 0xe0 ≤ a.toNat) (hmax : a.toNat < 0xf0)
    (hb : isSecond a b = true) (hc : isContinuation c = true) (rest : List UInt8) :
    parts (a :: b :: c :: rest) =
      some (Char.ofNat ((a.toNat % 16 * 64 + low b) * 64 + low c)) :: parts rest := by
  have h1 : ¬a.toNat < 0x80 := by omega
  have h2 : ¬a.toNat < 0xc2 := by omega
  have h3 : ¬a.toNat < 0xe0 := by omega
  rw [parts.eq_def]
  simp only [h1, h2, h3, hmax, hb, hc, if_true, if_false]

theorem parts_four {a b c d : UInt8} (hmin : 0xf0 ≤ a.toNat) (hmax : a.toNat < 0xf5)
    (hb : isSecond a b = true) (hc : isContinuation c = true) (hd : isContinuation d = true)
    (rest : List UInt8) :
    parts (a :: b :: c :: d :: rest) =
      some (Char.ofNat (((a.toNat % 8 * 64 + low b) * 64 + low c) * 64 + low d)) ::
        parts rest := by
  have h1 : ¬a.toNat < 0x80 := by omega
  have h2 : ¬a.toNat < 0xc2 := by omega
  have h3 : ¬a.toNat < 0xe0 := by omega
  have h4 : ¬a.toNat < 0xf0 := by omega
  rw [parts.eq_def]
  simp only [h1, h2, h3, h4, hmax, hb, hc, hd, if_true, if_false]

theorem isSecond_ofNat {first second : Nat} (hfirst : first < 256) (hsecond : second < 64)
    (he0 : first = 0xe0 → 0x20 ≤ second) (hed : first = 0xed → second < 0x20)
    (hf0 : first = 0xf0 → 0x10 ≤ second) (hf4 : first = 0xf4 → second < 0x10) :
    isSecond (UInt8.ofNat first) (UInt8.ofNat (0x80 + second)) = true := by
  have h1 : (UInt8.ofNat first).toNat = first := toNat_ofNat hfirst
  have h2 : (UInt8.ofNat (0x80 + second)).toNat = 0x80 + second := toNat_ofNat (by omega)
  rw [isSecond]
  simp only [h1, h2, beq_iff_eq]
  split
  · simp only [Bool.and_eq_true, decide_eq_true_eq]
    omega
  split
  · simp only [Bool.and_eq_true, decide_eq_true_eq]
    omega
  split
  · simp only [Bool.and_eq_true, decide_eq_true_eq]
    omega
  split
  · simp only [Bool.and_eq_true, decide_eq_true_eq]
    omega
  · exact isContinuation_ofNat hsecond

theorem parts_encodeChar (c : Char) (rest : List UInt8) :
    parts (encodeChar c ++ rest) = some c :: parts rest := by
  have hchar : Char.ofNat c.toNat = c := Char.ofNat_toNat c
  -- A surrogate is no character, so its second byte does not occur.
  have hvalid : c.toNat < 0xd800 ∨ 0xdfff < c.toNat ∧ c.toNat < 0x110000 := c.valid
  rw [encodeChar]
  generalize hn : c.toNat = n at hchar hvalid ⊢
  by_cases h1 : n < 0x80
  · have ha : (UInt8.ofNat n).toNat = n := toNat_ofNat (by omega)
    rw [if_pos h1, List.singleton_append, parts_one (by omega), ha, hchar]
  by_cases h2 : n < 0x800
  · have ha : (UInt8.ofNat (0xc0 + n / 64)).toNat = 0xc0 + n / 64 := toNat_ofNat (by omega)
    have hvalue : (0xc0 + n / 64) % 32 * 64 + n % 64 = n := by omega
    rw [if_neg h1, if_pos h2, List.cons_append, List.singleton_append,
      parts_two (by omega) (by omega) (isContinuation_ofNat (by omega)), ha, low_ofNat (by omega),
      hvalue, hchar]
  by_cases h3 : n < 0x10000
  · have ha : (UInt8.ofNat (0xe0 + n / 4096)).toNat = 0xe0 + n / 4096 := toNat_ofNat (by omega)
    have hsecond : isSecond (UInt8.ofNat (0xe0 + n / 4096)) (UInt8.ofNat (0x80 + n / 64 % 64)) :=
      isSecond_ofNat (by omega) (by omega) (by omega) (by omega) (by omega) (by omega)
    have hvalue : ((0xe0 + n / 4096) % 16 * 64 + n / 64 % 64) * 64 + n % 64 = n := by omega
    rw [if_neg h1, if_neg h2, if_pos h3, List.cons_append, List.cons_append,
      List.singleton_append, parts_three (by omega) (by omega) hsecond
        (isContinuation_ofNat (by omega)), ha, low_ofNat (by omega), low_ofNat (by omega), hvalue,
      hchar]
  · have ha : (UInt8.ofNat (0xf0 + n / 262144)).toNat = 0xf0 + n / 262144 :=
      toNat_ofNat (by omega)
    have hsecond :
        isSecond (UInt8.ofNat (0xf0 + n / 262144)) (UInt8.ofNat (0x80 + n / 4096 % 64)) :=
      isSecond_ofNat (by omega) (by omega) (by omega) (by omega) (by omega) (by omega)
    have hvalue : (((0xf0 + n / 262144) % 8 * 64 + n / 4096 % 64) * 64 + n / 64 % 64) * 64 +
        n % 64 = n := by omega
    rw [if_neg h1, if_neg h2, if_neg h3, List.cons_append, List.cons_append, List.cons_append,
      List.singleton_append, parts_four (by omega) (by omega) hsecond
        (isContinuation_ofNat (by omega)) (isContinuation_ofNat (by omega)), ha,
      low_ofNat (by omega), low_ofNat (by omega), low_ofNat (by omega), hvalue, hchar]

theorem toNat_lt (c : Char) : c.toNat < 0x110000 := by
  have hvalid : c.toNat < 0xd800 ∨ 0xdfff < c.toNat ∧ c.toNat < 0x110000 := c.valid
  omega

theorem encodeChar_of_lt {c : Char} (h : c.toNat < 0x80) :
    encodeChar c = [UInt8.ofNat c.toNat] := by
  rw [encodeChar]
  exact if_pos h

/-- The bytes of longer characters are no characters by themselves. -/
theorem le_of_mem_encodeChar {c : Char} {b : UInt8} (h : 0x80 ≤ c.toNat) (hb : b ∈ encodeChar c) :
    0x80 ≤ b.toNat := by
  have hlt := toNat_lt c
  rw [encodeChar] at hb
  generalize c.toNat = n at h hlt hb
  split at hb
  · omega
  split at hb
  · simp only [List.mem_cons, List.not_mem_nil, or_false] at hb
    rcases hb with rfl | rfl <;> rw [toNat_ofNat (by omega)] <;> omega
  split at hb
  · simp only [List.mem_cons, List.not_mem_nil, or_false] at hb
    rcases hb with rfl | rfl | rfl <;> rw [toNat_ofNat (by omega)] <;> omega
  · simp only [List.mem_cons, List.not_mem_nil, or_false] at hb
    rcases hb with rfl | rfl | rfl | rfl <;> rw [toNat_ofNat (by omega)] <;> omega

theorem length_encodeChar (c : Char) : (encodeChar c).length = c.utf8Size := by
  have hvalue (n : UInt32) : c.val ≤ n ↔ c.toNat ≤ n.toNat := UInt32.le_iff_toNat_le
  rw [encodeChar, Char.utf8Size]
  simp only [hvalue, UInt32.toNat_ofNatLT]
  split
  · rw [if_pos (by omega)]
    rfl
  split
  · rw [if_neg (by omega), if_pos (by omega)]
    rfl
  split
  · rw [if_neg (by omega), if_neg (by omega), if_pos (by omega)]
    rfl
  · rw [if_neg (by omega), if_neg (by omega), if_neg (by omega)]
    rfl

theorem not_isContinuation_ofNat {n : Nat} (hlt : n < 256) (h : n < 0x80 ∨ 0xc0 ≤ n) :
    isContinuation (UInt8.ofNat n) = false := by
  rw [isContinuation, toNat_ofNat hlt, Bool.and_eq_false_iff, decide_eq_false_iff_not,
    decide_eq_false_iff_not]
  omega

/-- The first byte of a character continues none, and the bytes after it do. -/
theorem exists_encodeChar (c : Char) : ∃ first rest, encodeChar c = first :: rest ∧
    isContinuation first = false ∧ ∀ b ∈ rest, isContinuation b = true := by
  have hlt := toNat_lt c
  rw [encodeChar]
  generalize c.toNat = n at hlt
  split
  · exact ⟨_, _, rfl, not_isContinuation_ofNat (by omega) (by omega), by simp⟩
  split
  · refine ⟨_, _, rfl, not_isContinuation_ofNat (by omega) (by omega), ?_⟩
    rw [List.forall_mem_singleton]
    exact isContinuation_ofNat (by omega)
  split
  · refine ⟨_, _, rfl, not_isContinuation_ofNat (by omega) (by omega), ?_⟩
    rw [List.forall_mem_cons, List.forall_mem_singleton]
    exact ⟨isContinuation_ofNat (by omega), isContinuation_ofNat (by omega)⟩
  · refine ⟨_, _, rfl, not_isContinuation_ofNat (by omega) (by omega), ?_⟩
    rw [List.forall_mem_cons, List.forall_mem_cons, List.forall_mem_singleton]
    exact ⟨isContinuation_ofNat (by omega), isContinuation_ofNat (by omega),
      isContinuation_ofNat (by omega)⟩

/-! ## Texts -/

theorem encode_append (s t : List Char) : encode (s ++ t) = encode s ++ encode t :=
  List.flatMap_append

theorem parts_encode (s : List Char) : parts (encode s) = s.map some := by
  induction s with
  | nil => rfl
  | cons c s ih =>
    rw [encode, List.flatMap_cons, parts_encodeChar, List.map_cons]
    exact congrArg _ ih

theorem decodeLossy_encode (s : List Char) : decodeLossy (encode s) = s := by
  rw [decodeLossy, parts_encode, List.map_map]
  exact List.map_id s

theorem encode_cons (c : Char) (s : List Char) : encode (c :: s) = encodeChar c ++ encode s :=
  List.flatMap_cons

/-- A text starts with a word exactly if its bytes start with those of the word. -/
theorem encode_isPrefix_iff {word s : List Char} : encode word <+: encode s ↔ word <+: s := by
  constructor
  · intro h
    induction word generalizing s with
    | nil => exact List.nil_prefix
    | cons c word ih =>
      obtain ⟨more, hmore⟩ := h
      rw [encode_cons, List.append_assoc] at hmore
      have hparts := congrArg parts hmore
      rw [parts_encodeChar] at hparts
      cases s with
      | nil => cases hparts
      | cons d s =>
        rw [encode_cons, parts_encodeChar] at hparts
        obtain rfl := Option.some.inj (List.cons.inj hparts).1
        rw [encode_cons] at hmore
        exact (List.prefix_cons_inj c).mpr (ih ⟨more, List.append_cancel_left hmore⟩)
  · rintro ⟨rest, rfl⟩
    exact ⟨encode rest, (encode_append word rest).symm⟩

end QueryGateway.Text.Utf8
