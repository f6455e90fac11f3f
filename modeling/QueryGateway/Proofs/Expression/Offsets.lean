import QueryGateway.Proofs.Expression.Closing
import QueryGateway.Proofs.Text.Utf8

/-!
Scanning by offsets.

A template in bytes is scanned by offsets into it: the walk to a closing delimiter goes from byte
to byte (`closeAt?`), and the texts are slices between two offsets, each of which has to be in
range and between two characters (`slice?`).  Delimiters and quotes start with bytes that
continue no character, so the walk stops only between characters and ends where the walk over
characters does (`agree`).  With it no slice fails, and the references are the same
(`scan?_eq`).
-/

namespace QueryGateway

namespace Segments

open Text Utf8

/-! ## Slices -/

/-- A text cut at an offset in bytes.  Past its end and inside a character there is no cut. -/
def splitAt? : (offset : Nat) → List Char → Option (List Char × List Char)
  | 0, s => some ([], s)
  | _ + 1, [] => none
  | offset + 1, c :: rest =>
    if c.utf8Size ≤ offset + 1 then
      (splitAt? (offset + 1 - c.utf8Size) rest).map fun p => (c :: p.1, p.2)
    else none

/-- The part of a text between two offsets in bytes, if they are in order and the text can be
cut at both. -/
def slice? (s : List Char) (start stop : Nat) : Option (List Char) :=
  (splitAt? stop s).bind fun p => (splitAt? start p.1).map fun q => q.2

theorem byteLength_cons (c : Char) (s : List Char) :
    byteLength (c :: s) = c.utf8Size + byteLength s := by
  rw [← List.singleton_append, byteLength_append, byteLength, List.foldl_cons, List.foldl_nil,
    Nat.zero_add]

theorem splitAt?_eq_some_iff {offset : Nat} {s before after : List Char} :
    splitAt? offset s = some (before, after) ↔
      s = before ++ after ∧ byteLength before = offset := by
  fun_induction splitAt? offset s generalizing before with
  | case1 s =>
    constructor
    · intro h
      obtain ⟨rfl, rfl⟩ := Prod.mk.inj (Option.some.inj h)
      exact ⟨rfl, rfl⟩
    · rintro ⟨rfl, hlength⟩
      obtain rfl := eq_nil_of_byteLength hlength
      rfl
  | case2 offset =>
    refine iff_of_false (fun h => by cases h) fun ⟨h, hlength⟩ => ?_
    obtain ⟨rfl, -⟩ := List.append_eq_nil_iff.mp h.symm
    cases hlength
  | case3 offset c rest hsize ih =>
    constructor
    · intro h
      obtain ⟨⟨front, after'⟩, hfound, heq⟩ := Option.map_eq_some_iff.mp h
      obtain ⟨rfl, rfl⟩ := Prod.mk.inj heq
      obtain ⟨rfl, hlength⟩ := ih.mp hfound
      exact ⟨rfl, by rw [byteLength_cons, hlength, Nat.add_sub_cancel' hsize]⟩
    · rintro ⟨hs, hlength⟩
      cases before with
      | nil => cases hlength
      | cons d before =>
        obtain ⟨rfl, rfl⟩ := List.cons.inj hs
        rw [byteLength_cons] at hlength
        rw [ih.mpr ⟨rfl, by omega⟩]
        rfl
  | case4 offset c rest hsize =>
    refine iff_of_false (fun h => by cases h) fun ⟨h, hlength⟩ => ?_
    cases before with
    | nil => cases hlength
    | cons d before =>
      obtain ⟨rfl, -⟩ := List.cons.inj h
      rw [byteLength_cons] at hlength
      omega

theorem slice?_eq_some_iff {s part : List Char} {start stop : Nat} :
    slice? s start stop = some part ↔ ∃ before after, s = before ++ part ++ after ∧
      byteLength before = start ∧ byteLength (before ++ part) = stop := by
  simp only [slice?, Option.bind_eq_some_iff, Option.map_eq_some_iff, Prod.exists,
    splitAt?_eq_some_iff]
  constructor
  · rintro ⟨front, after, ⟨rfl, rfl⟩, before, part, ⟨rfl, rfl⟩, rfl⟩
    exact ⟨before, after, rfl, rfl, rfl⟩
  · rintro ⟨before, after, rfl, rfl, rfl⟩
    exact ⟨_, after, ⟨rfl, rfl⟩, before, part, ⟨rfl, rfl⟩, rfl⟩

theorem slice?_of_eq {s : List Char} (before part after : List Char) {start stop : Nat}
    (hs : s = before ++ part ++ after) (hstart : byteLength before = start)
    (hstop : start + byteLength part = stop) : slice? s start stop = some part :=
  slice?_eq_some_iff.mpr ⟨before, after, hs, hstart, by rw [byteLength_append, hstart, hstop]⟩

/-! ## The walk over bytes -/

/-- Delimiters in bytes. -/
structure Marks where
  opening : List UInt8
  closing : List UInt8
  opening_ne_nil : opening ≠ []
  closing_ne_nil : closing ≠ []

/-- Where the closing delimiter of an expression ends, found from offset `i` of a template's
bytes on.  `depth` is the number of nested expressions, and `literal` says whether the offset is
inside of a literal. -/
def closeAt? (m : Marks) (bytes : List UInt8) (depth i : Nat) (literal : Bool) : Option Nat :=
  if hi : i < bytes.length then
    if literal then
      if bytes[i] = '\\'.toUInt8 ∧ bytes[i + 1]? = some '\''.toUInt8 then
        closeAt? m bytes depth (i + 2) true
      else closeAt? m bytes depth (i + 1) (bytes[i] != '\''.toUInt8)
    else if m.opening <+: bytes.drop i then
      closeAt? m bytes (depth + 1) (i + m.opening.length) false
    else if m.closing <+: bytes.drop i then
      if depth = 0 then some (i + m.closing.length)
      else closeAt? m bytes (depth - 1) (i + m.closing.length) false
    else closeAt? m bytes depth (i + 1) (bytes[i] == '\''.toUInt8)
  else none
termination_by bytes.length - i
decreasing_by
  · omega
  · omega
  · have hlength := List.length_pos_iff.mpr m.opening_ne_nil
    omega
  · have hlength := List.length_pos_iff.mpr m.closing_ne_nil
    omega
  · omega

section Walk

variable {m : Marks} {bytes : List UInt8} {depth i : Nat} {literal : Bool}

theorem of_closeAt? {stop : Nat} (h : closeAt? m bytes depth i literal = some stop) :
    i + m.closing.length ≤ stop ∧ stop ≤ bytes.length := by
  fun_induction closeAt? m bytes depth i literal with
  | case4 i literal hi hliteral hopens hcloses =>
    obtain rfl := Option.some.inj h
    have hlength := hcloses.length_le
    rw [List.length_drop] at hlength
    omega
  | case7 => cases h
  | _ =>
    rename_i ih
    have hbounds := ih h
    omega

/-- Behind a closing delimiter there is less left of the template. -/
theorem sub_lt_of_closeAt? {pos stop : Nat} (h : closeAt? m bytes depth i literal = some stop)
    (hpos : pos ≤ i) : bytes.length - stop < bytes.length - pos := by
  have hbounds := of_closeAt? h
  have hlength := List.length_pos_iff.mpr m.closing_ne_nil
  omega

theorem closeAt?_nil (h : bytes.drop i = []) : closeAt? m bytes depth i literal = none := by
  rw [closeAt?, dif_neg (Nat.not_lt.mpr (List.drop_eq_nil_iff.mp h))]

/-- One step of the walk, seen from the bytes that are left. -/
theorem closeAt?_cons {b : UInt8} {rest : List UInt8} (h : bytes.drop i = b :: rest) :
    closeAt? m bytes depth i literal =
      if literal then
        if b = '\\'.toUInt8 ∧ rest.head? = some '\''.toUInt8 then
          closeAt? m bytes depth (i + 2) true
        else closeAt? m bytes depth (i + 1) (b != '\''.toUInt8)
      else if m.opening <+: b :: rest then
        closeAt? m bytes (depth + 1) (i + m.opening.length) false
      else if m.closing <+: b :: rest then
        if depth = 0 then some (i + m.closing.length)
        else closeAt? m bytes (depth - 1) (i + m.closing.length) false
      else closeAt? m bytes depth (i + 1) (b == '\''.toUInt8) := by
  have hi : i < bytes.length := Nat.lt_of_not_le fun hle => by
    rw [List.drop_eq_nil_of_le hle] at h
    cases h
  have hcons := h
  rw [List.drop_eq_getElem_cons hi] at hcons
  obtain ⟨hb, hrest⟩ := List.cons.inj hcons
  have hnext : bytes[i + 1]? = rest.head? := by rw [← hrest, List.head?_drop]
  rw [closeAt?, dif_pos hi, hb, hnext, h]

theorem drop_add {part rest : List UInt8} {n : Nat} (h : bytes.drop i = part ++ rest)
    (hn : part.length = n) : bytes.drop (i + n) = rest := by
  rw [← List.drop_drop, h, ← hn, List.drop_left]

/-! ## The walk over the bytes of characters -/

theorem length_encode (s : List Char) : (encode s).length = byteLength s := by
  induction s with
  | nil => rfl
  | cons c rest ih => rw [encode_cons, List.length_append, length_encodeChar, ih, byteLength_cons]

theorem not_isPrefix_of_isContinuation {word : List Char} (hword : encode word ≠ []) {b : UInt8}
    (hb : isContinuation b = true) (rest : List UInt8) : ¬encode word <+: b :: rest := by
  intro h
  cases word with
  | nil => exact hword rfl
  | cons c word =>
    obtain ⟨first, more, hc, hfirst, -⟩ := exists_encodeChar c
    rw [encode_cons, hc, List.cons_append, List.cons_prefix_cons] at h
    rw [h.1, hb] at hfirst
    cases hfirst

theorem ne_toUInt8_of_isContinuation {b : UInt8} (hb : isContinuation b = true) {a : Char}
    (ha : isContinuation a.toUInt8 = false) : b ≠ a.toUInt8 := by
  rintro rfl
  rw [hb] at ha
  cases ha

theorem head?_encode_eq_iff {a : Char} (ha : encodeChar a = [a.toUInt8]) {s : List Char} :
    (encode s).head? = some a.toUInt8 ↔ s.head? = some a := by
  have hhead {α : Type} {x : α} {l : List α} : l.head? = some x ↔ [x] <+: l := by
    rw [List.head?_eq_some_iff]
    exact exists_congr fun _ => eq_comm
  have hone : encode [a] = [a.toUInt8] := by rw [encode, List.flatMap_singleton, ha]
  rw [hhead, hhead, ← hone, encode_isPrefix_iff]

theorem drop_encode {word rest : List Char} (h : bytes.drop i = encode (word ++ rest)) :
    bytes.drop (i + byteLength word) = encode rest :=
  drop_add (h.trans (encode_append word rest)) (length_encode word)

/-- The bytes of two texts as delimiters. -/
structure Marks.Encode (m : Marks) (opening closing : List Char) : Prop where
  opening : m.opening = encode opening
  closing : m.closing = encode closing

variable {opening closing : List Char} (hm : m.Encode opening closing)
include hm

/-- The bytes that continue a character are passed without notice. -/
theorem closeAt?_continued {part rest : List UInt8}
    (hpart : ∀ b ∈ part, isContinuation b = true) (h : bytes.drop i = part ++ rest) :
    closeAt? m bytes depth i literal = closeAt? m bytes depth (i + part.length) literal := by
  induction part generalizing i with
  | nil => rfl
  | cons b part ih =>
    have hb := hpart b List.mem_cons_self
    have hquote : b ≠ '\''.toUInt8 := ne_toUInt8_of_isContinuation hb (by decide)
    have hbackslash : b ≠ '\\'.toUInt8 := ne_toUInt8_of_isContinuation hb (by decide)
    have hopens : ¬m.opening <+: b :: (part ++ rest) :=
      hm.opening ▸ not_isPrefix_of_isContinuation (hm.opening ▸ m.opening_ne_nil) hb _
    have hcloses : ¬m.closing <+: b :: (part ++ rest) :=
      hm.closing ▸ not_isPrefix_of_isContinuation (hm.closing ▸ m.closing_ne_nil) hb _
    have hbytes : bytes.drop i = b :: (part ++ rest) := h
    have hstep : closeAt? m bytes depth i literal = closeAt? m bytes depth (i + 1) literal := by
      rw [closeAt?_cons hbytes]
      cases literal with
      | true => rw [if_pos rfl, if_neg fun h => hbackslash h.1, bne_iff_ne.mpr hquote]
      | false =>
        rw [if_neg Bool.false_ne_true, if_neg hopens, if_neg hcloses,
          beq_eq_false_iff_ne.mpr hquote]
    have hnext : bytes.drop (i + 1) = part ++ rest :=
      drop_add (show bytes.drop i = [b] ++ _ from hbytes) rfl
    rw [hstep, ih (fun b hb => hpart b (List.mem_cons_of_mem _ hb)) hnext, List.length_cons,
      Nat.add_assoc, Nat.add_comm 1]

theorem closeAt?_char {c : Char} {rest : List Char} (h : bytes.drop i = encode (c :: rest))
    (apart : literal = false → Undelimited opening closing (c :: rest))
    (escape : ¬(literal = true ∧ c = '\\' ∧ rest.head? = some '\'')) :
    closeAt? m bytes depth i literal =
      closeAt? m bytes depth (i + byteLength [c]) (literal ^^ c == '\'') := by
  obtain ⟨first, more, hc, -, hmore⟩ := exists_encodeChar c
  have hbytes : bytes.drop i = first :: (more ++ encode rest) := by
    rw [h, encode_cons, hc, List.cons_append]
  have hfirst {a : Char} (ha : encodeChar a = [a.toUInt8]) : first = a.toUInt8 ↔ c = a := by
    have hhead := head?_encode_eq_iff ha (s := c :: rest)
    rwa [encode_cons, hc, List.cons_append, List.head?_cons, List.head?_cons, Option.some.injEq,
      Option.some.injEq] at hhead
  -- The first byte decides, and the bytes after it change nothing.
  have hstep : closeAt? m bytes depth i literal =
      closeAt? m bytes depth (i + 1) (literal ^^ c == '\'') := by
    have hquote : (first == '\''.toUInt8) = (c == '\'') :=
      Bool.eq_iff_iff.mpr (by rw [beq_iff_eq, beq_iff_eq, hfirst rfl])
    rw [closeAt?_cons hbytes]
    cases literal with
    | true =>
      have hescape :
          ¬(first = '\\'.toUInt8 ∧ (more ++ encode rest).head? = some '\''.toUInt8) := by
        rintro ⟨hbackslash, hnext⟩
        obtain rfl := (hfirst rfl).mp hbackslash
        obtain ⟨-, rfl⟩ := List.cons.inj hc
        exact escape ⟨rfl, rfl, (head?_encode_eq_iff rfl).mp hnext⟩
      rw [if_pos rfl, if_neg hescape, Bool.true_xor, bne, hquote]
    | false =>
      obtain ⟨hopens, hcloses⟩ := apart rfl
      rw [← encode_isPrefix_iff, ← h, hbytes] at hopens hcloses
      rw [← hm.opening] at hopens
      rw [← hm.closing] at hcloses
      rw [if_neg Bool.false_ne_true, if_neg hopens, if_neg hcloses, Bool.false_xor, hquote]
  have hnext : bytes.drop (i + 1) = more ++ encode rest :=
    drop_add (show bytes.drop i = [first] ++ _ from hbytes) rfl
  have hsize : 1 + more.length = byteLength [c] := by
    rw [← length_encode, encode, List.flatMap_singleton, hc, List.length_cons, Nat.add_comm]
  rw [hstep, closeAt?_continued hm hmore hnext, Nat.add_assoc, hsize]

theorem closeAt?_opened {rest : List Char} (h : bytes.drop i = encode (opening ++ rest)) :
    closeAt? m bytes depth i false =
      closeAt? m bytes (depth + 1) (i + byteLength opening) false := by
  have hopens : m.opening <+: bytes.drop i :=
    hm.opening ▸ h ▸ encode_isPrefix_iff.mpr (List.prefix_append opening rest)
  obtain ⟨b, more, hb⟩ := List.exists_cons_of_ne_nil (hopens.ne_nil m.opening_ne_nil)
  rw [hb] at hopens
  rw [closeAt?_cons hb, if_neg Bool.false_ne_true, if_pos hopens, hm.opening, length_encode]

theorem closeAt?_closed {rest : List Char} (h : bytes.drop i = encode (closing ++ rest))
    (apart : ¬opening <+: closing ++ rest) :
    closeAt? m bytes depth i false =
      if depth = 0 then some (i + byteLength closing)
      else closeAt? m bytes (depth - 1) (i + byteLength closing) false := by
  have hopens : ¬m.opening <+: bytes.drop i := hm.opening ▸ h ▸ mt encode_isPrefix_iff.mp apart
  have hcloses : m.closing <+: bytes.drop i :=
    hm.closing ▸ h ▸ encode_isPrefix_iff.mpr (List.prefix_append closing rest)
  obtain ⟨b, more, hb⟩ := List.exists_cons_of_ne_nil (hcloses.ne_nil m.closing_ne_nil)
  rw [hb] at hopens hcloses
  rw [closeAt?_cons hb, if_neg Bool.false_ne_true, if_neg hopens, if_pos hcloses, hm.closing,
    length_encode]

omit hm in
theorem closeAt?_escaped {rest : List Char} (h : bytes.drop i = encode ('\\' :: '\'' :: rest)) :
    closeAt? m bytes depth i true =
      closeAt? m bytes depth (i + byteLength ['\\', '\'']) true := by
  rw [closeAt?_cons h, if_pos rfl]
  exact if_pos ⟨rfl, rfl⟩

end Walk

/-! ## Both walks -/

/-- Where a byte stands that is inside of a literal or not. -/
def quoting (literal : Bool) : Quoting := bif literal then .inside else .outside

theorem quoting_step {literal : Bool} {c : Char} {next : Option Char}
    (escape : ¬(literal = true ∧ c = '\\' ∧ next = some '\'')) :
    (quoting literal).step c next = quoting (literal ^^ c == '\'') := by
  by_cases hc : c = '\''
  · subst hc
    cases literal <;> rfl
  · rw [beq_eq_false_iff_ne.mpr hc, Bool.xor_false]
    cases literal with
    | false => exact if_neg hc
    | true => exact (if_neg fun h => escape ⟨rfl, h⟩).trans (if_neg hc)

/-- The walk over bytes ends where the walk over characters does. -/
def Agree (m : Marks) (opening closing : List Char) (bytes : List UInt8) (depth i : Nat)
    (literal : Bool) (s : List Char) : Prop :=
  closeAt? m bytes depth i literal =
    (untilClose opening closing 0 depth (quoting literal) s).map fun p =>
      i + byteLength p.1 + byteLength closing

section Agree

variable {m : Marks} {opening closing : List Char} {bytes : List UInt8} {depth i : Nat}
  {literal : Bool} {s : List Char}

/-- Both walks pass over a word. -/
theorem Agree.pass {depth' : Nat} {literal' : Bool} {word rest : List Char}
    (hbytes : closeAt? m bytes depth i literal =
      closeAt? m bytes depth' (i + byteLength word) literal')
    (hchars : untilClose opening closing 0 depth (quoting literal) (word ++ rest) =
      (untilClose opening closing 0 depth' (quoting literal') rest).map fun p =>
        (word ++ p.1, p.2))
    (h : Agree m opening closing bytes depth' (i + byteLength word) literal' rest) :
    Agree m opening closing bytes depth i literal (word ++ rest) := by
  rw [Agree, hbytes, hchars, Option.map_map, h]
  refine congrArg (Option.map · _) (funext fun p => ?_)
  rw [Function.comp_apply, byteLength_append, Nat.add_assoc i]

theorem Agree.char (hm : m.Encode opening closing) {c : Char} {rest : List Char}
    (h : bytes.drop i = encode (c :: rest))
    (apart : literal = false → Undelimited opening closing (c :: rest))
    (escape : ¬(literal = true ∧ c = '\\' ∧ rest.head? = some '\''))
    (hrest : Agree m opening closing bytes depth (i + byteLength [c]) (literal ^^ c == '\'') rest) :
    Agree m opening closing bytes depth i literal (c :: rest) := by
  have hchars : untilClose opening closing 0 depth (quoting literal) (c :: rest) =
      (untilClose opening closing 0 depth ((quoting literal).step c rest.head?) rest).map fun p =>
        (c :: p.1, p.2) := by
    cases literal with
    | false => exact untilClose_char depth (apart rfl)
    | true => exact untilClose_inside depth (by decide)
  rw [quoting_step escape] at hchars
  exact .pass (closeAt?_char hm h apart escape) hchars hrest

theorem agree (hm : m.Encode opening closing) (h : bytes.drop i = encode s) :
    Agree m opening closing bytes depth i literal s := by
  have hopening : opening ≠ [] := fun h => m.opening_ne_nil (hm.opening.trans (h ▸ rfl))
  have hclosing : closing ≠ [] := fun h => m.closing_ne_nil (hm.closing.trans (h ▸ rfl))
  have hopeningLength := List.length_pos_iff.mpr hopening
  have hclosingLength := List.length_pos_iff.mpr hclosing
  induction hlength : s.length using Nat.strongRecOn generalizing depth i literal s with
  | ind length ih =>
    cases literal with
    | false =>
      cases start opening closing s with
      | finished =>
        rw [Agree, closeAt?_nil h]
        rfl
      | opened rest =>
        rw [List.length_append] at hlength
        exact .pass (closeAt?_opened hm h) (untilClose_opened hopening depth rest)
          (ih rest.length (by omega) (drop_encode h) rfl)
      | @closed rest apart =>
        rw [List.length_append] at hlength
        have hclosed : closeAt? m bytes depth i false = _ := closeAt?_closed hm h apart
        cases depth with
        | zero =>
          show _ = (untilClose opening closing 0 0 .outside _).map _
          rw [hclosed, if_pos rfl, untilClose_closed hclosing apart]
          rfl
        | succ depth =>
          exact .pass hclosed (untilClose_nested hclosing depth apart)
            (ih rest.length (by omega) (drop_encode h) rfl)
      | @char c rest apart =>
        rw [List.length_cons] at hlength
        have hrest : bytes.drop (i + byteLength [c]) = encode rest := drop_encode h
        exact .char hm h (fun _ => apart) (fun h => Bool.false_ne_true h.1)
          (ih rest.length (by omega) hrest rfl)
    | true =>
      cases s with
      | nil =>
        rw [Agree, closeAt?_nil h]
        rfl
      | cons c rest =>
        rw [List.length_cons] at hlength
        by_cases escape : c = '\\' ∧ rest.head? = some '\''
        · obtain ⟨rfl, hquote⟩ := escape
          obtain ⟨rest, rfl⟩ := List.head?_eq_some_iff.mp hquote
          have hrest : bytes.drop (i + byteLength ['\\', '\'']) = encode rest := drop_encode h
          rw [List.length_cons] at hlength
          exact .pass (closeAt?_escaped h) (untilClose_escaped depth rest)
            (ih rest.length (by omega) hrest rfl)
        · have hrest : bytes.drop (i + byteLength [c]) = encode rest := drop_encode h
          exact .char hm h (fun h => absurd h.symm Bool.false_ne_true) (fun h => escape h.2)
            (ih rest.length (by omega) hrest rfl)

end Agree

end Segments

/-! ## The scan -/

namespace Delimiters

open Segments Text Utf8

theorem encode_ne_nil {word : String} (h : word ≠ "") : encode word.toList ≠ [] := by
  intro hnil
  have hlength := length_encode word.toList
  rw [hnil] at hlength
  exact h (String.toList_eq_nil_iff.mp (eq_nil_of_byteLength hlength.symm))

/-- The delimiters in bytes. -/
def marks (d : Delimiters) (hopening : d.opening ≠ "") (hclosing : d.closing ≠ "") : Marks where
  opening := encode d.opening.toList
  closing := encode d.closing.toList
  opening_ne_nil := encode_ne_nil hopening
  closing_ne_nil := encode_ne_nil hclosing

/-- The references of a template from offset `pos` on, with every slice checked: none if one of
them is out of range or cuts a character. -/
def scanFrom? (d : Delimiters) (hopening : d.opening ≠ "") (hclosing : d.closing ≠ "")
    (template : List Char) (pos : Nat) : Option (List Reference) :=
  (slice? template pos (byteLength template)).bind fun text =>
    (breakOn? d.opening.toList text).elim (some []) fun found =>
      let start := pos + byteLength found.1
      let inside := start + byteLength d.opening.toList
      match hstop : closeAt? (d.marks hopening hclosing) (encode template) 0 inside false with
      | none => some []
      | some stop => do
        have : (encode template).length - stop < (encode template).length - pos :=
          sub_lt_of_closeAt? hstop (Nat.le_add_right_of_le (Nat.le_add_right pos _))
        let inner ← slice? template inside (stop - byteLength d.closing.toList)
        let matched ← slice? template start stop
        let more ← scanFrom? d hopening hclosing template stop
        some ({ matched := String.ofList matched, inner := String.ofList (trim inner), start, stop }
          :: more)
termination_by (encode template).length - pos

theorem of_eq_cut {d : Delimiters} {first : Char} {opening : List Char}
    (hfirst : d.opening.toList = first :: opening) (hclosing : d.closing.toList ≠ [])
    (s : List Char) : of d s = cut first opening d.closing.toList s := by
  obtain ⟨last, closing, hlast⟩ := List.exists_cons_of_ne_nil hclosing
  rw [of, hfirst, hlast]

section Scan

variable (d : Delimiters) (hopening : d.opening ≠ "") (hclosing : d.closing ≠ "")
  {front before rest : List Char}

theorem slice?_rest (front rest : List Char) :
    slice? (front ++ rest) (byteLength front) (byteLength (front ++ rest)) = some rest :=
  slice?_of_eq front rest [] (List.append_nil _).symm rfl (byteLength_append front rest).symm

/-- The walk to the closing delimiter, from an opening one on. -/
theorem closeAt?_marks (front before rest : List Char) :
    closeAt? (d.marks hopening hclosing) (encode (front ++ (before ++ d.opening.toList ++ rest))) 0
        (byteLength front + byteLength before + byteLength d.opening.toList) false =
      (untilClose d.opening.toList d.closing.toList 0 0 .outside rest).map fun p =>
        byteLength front + byteLength before + byteLength d.opening.toList + byteLength p.1 +
          byteLength d.closing.toList := by
  refine agree ⟨rfl, rfl⟩ ?_
  rw [← List.append_assoc, ← List.append_assoc, encode_append, ← byteLength_append,
    ← byteLength_append, ← length_encode, List.drop_left]

theorem scanFrom?_none {s : List Char} (hbreak : breakOn? d.opening.toList s = none) :
    d.scanFrom? hopening hclosing (front ++ s) (byteLength front) = some [] := by
  rw [scanFrom?, slice?_rest, Option.bind_some, hbreak]
  rfl

theorem scanFrom?_unclosed {s : List Char}
    (hbreak : breakOn? d.opening.toList s = some (before, rest))
    (hclose : untilClose d.opening.toList d.closing.toList 0 0 .outside rest = none) :
    d.scanFrom? hopening hclosing (front ++ s) (byteLength front) = some [] := by
  obtain rfl := eq_of_breakOn? hbreak
  rw [scanFrom?, slice?_rest, Option.bind_some]
  simp only [hbreak, Option.elim_some]
  split
  · rfl
  · rename_i stop hstop
    rw [closeAt?_marks d hopening hclosing, hclose] at hstop
    cases hstop

theorem scanFrom?_closed {s inner after : List Char}
    (hbreak : breakOn? d.opening.toList s = some (before, rest))
    (hclose : untilClose d.opening.toList d.closing.toList 0 0 .outside rest =
      some (inner, after)) :
    d.scanFrom? hopening hclosing (front ++ s) (byteLength front) =
      (d.scanFrom? hopening hclosing (front ++ s) (byteLength front + byteLength before +
        byteLength (d.opening.toList ++ inner ++ d.closing.toList))).map fun more =>
          { matched := String.ofList (d.opening.toList ++ inner ++ d.closing.toList)
            inner := String.ofList (trim inner)
            start := byteLength front + byteLength before
            stop := byteLength front + byteLength before +
              byteLength (d.opening.toList ++ inner ++ d.closing.toList) } :: more := by
  have hclosing' : d.closing.toList ≠ [] := fun h => hclosing (String.toList_eq_nil_iff.mp h)
  obtain rfl := eq_of_breakOn? hbreak
  obtain rfl := eq_of_untilClose hclosing' hclose
  have hbehind := closeAt?_marks d hopening hclosing front before
    (inner ++ (d.closing.toList ++ after))
  rw [hclose, Option.map_some] at hbehind
  rw [scanFrom?, slice?_rest, Option.bind_some]
  generalize htemplate : front ++ (before ++ d.opening.toList ++
    (inner ++ (d.closing.toList ++ after))) = template at hbehind ⊢
  generalize hstop : byteLength front + byteLength before +
    byteLength (d.opening.toList ++ inner ++ d.closing.toList) = stop
  have hinner : slice? template (byteLength front + byteLength before + byteLength d.opening.toList)
      (stop - byteLength d.closing.toList) = some inner := by
    refine slice?_of_eq (front ++ before ++ d.opening.toList) inner (d.closing.toList ++ after)
      (by simp [← htemplate]) (by simp only [byteLength_append]) ?_
    simp only [← hstop, byteLength_append]
    omega
  have hmatched : slice? template (byteLength front + byteLength before) stop =
      some (d.opening.toList ++ inner ++ d.closing.toList) :=
    slice?_of_eq (front ++ before) _ after (by simp [← htemplate]) (byteLength_append ..) hstop
  have hend : byteLength front + byteLength before + byteLength d.opening.toList +
      byteLength inner + byteLength d.closing.toList = stop := by
    simp only [← hstop, byteLength_append, Nat.add_assoc]
  simp only [hbreak, Option.elim_some]
  split
  · rename_i hnone
    rw [hbehind] at hnone
    cases hnone
  · rename_i found hfound
    obtain rfl := hend.symm.trans (Option.some.inj (hbehind.symm.trans hfound))
    simp only [hinner, hmatched, Option.bind_eq_bind, Option.bind_some, Option.map_eq_bind]
    rfl

/-- No slice of the scan fails, and it finds the references. -/
theorem scanFrom?_cut {first : Char} {opening : List Char}
    (hfirst : d.opening.toList = first :: opening) (front s : List Char) :
    d.scanFrom? hopening hclosing (front ++ s) (byteLength front) =
      some (referencesFrom d (byteLength front) (cut first opening d.closing.toList s).holes) := by
  have hclosing' : d.closing.toList ≠ [] := fun h => hclosing (String.toList_eq_nil_iff.mp h)
  fun_induction cut first opening d.closing.toList s generalizing front with
  | case1 s hbreak =>
    rw [← hfirst] at hbreak
    exact scanFrom?_none d hopening hclosing hbreak
  | case2 s before rest hbreak hclose =>
    rw [← hfirst] at hbreak hclose
    exact scanFrom?_unclosed d hopening hclosing hbreak hclose
  | case3 s before rest hbreak inner after hclose hlength more ih =>
    rw [← hfirst] at hbreak hclose
    have hmore := ih (front ++ before ++ (d.opening.toList ++ inner ++ d.closing.toList))
    have htemplate : front ++ before ++ (d.opening.toList ++ inner ++ d.closing.toList) ++ after =
        front ++ s := by
      rw [eq_of_breakOn? hbreak, eq_of_untilClose hclosing' hclose]
      simp
    rw [htemplate, byteLength_append, byteLength_append] at hmore
    rw [scanFrom?_closed d hopening hclosing hbreak hclose, hmore]
    rfl

end Scan

/-- The references of a template, found by offsets alone. -/
def scan? (d : Delimiters) (hopening : d.opening ≠ "") (hclosing : d.closing ≠ "")
    (template : String) : Option (List Reference) :=
  d.scanFrom? hopening hclosing template.toList 0

theorem scan?_eq (d : Delimiters) (hopening : d.opening ≠ "") (hclosing : d.closing ≠ "")
    (template : String) : d.scan? hopening hclosing template = some (d.references template) := by
  have hclosing' : d.closing.toList ≠ [] := fun h => hclosing (String.toList_eq_nil_iff.mp h)
  obtain ⟨first, opening, hfirst⟩ :=
    List.exists_cons_of_ne_nil fun h => hopening (String.toList_eq_nil_iff.mp h)
  rw [scan?, references, of_eq_cut hfirst hclosing']
  exact scanFrom?_cut d hopening hclosing hfirst [] template.toList

end Delimiters
end QueryGateway
