import QueryGateway.Expression.Segments

/-!
What cutting a template keeps.

The segments of a template put together again are the template (`joined_of`), and the
offsets of its references count the bytes before them, so each reference stands in the
template where its offsets say (`extract_references`).
-/

namespace QueryGateway

namespace Segments

/-- The text that expressions and the plain text after them were cut from. -/
def joined (opening closing : List Char) : List Hole → List Char → List Char
  | [], tail => tail
  | hole :: rest, tail =>
    hole.before ++ ((opening ++ hole.inner ++ closing) ++ joined opening closing rest tail)

theorem eq_of_untilClose {opening closing : List Char} (hclosing : closing ≠ [])
    {skip depth : Nat} {q : Quoting} {s inner after : List Char}
    (h : untilClose opening closing skip depth q s = some (inner, after)) :
    s = inner ++ (closing ++ after) := by
  -- Every branch but the last closing delimiter passes one character on.
  have pass {c : Char} {rest : List Char} {found : Option (List Char × List Char)}
      (ih : ∀ {inner : List Char}, found = some (inner, after) → rest = inner ++ (closing ++ after))
      {inner : List Char}
      (h : found.map (fun p => (c :: p.1, p.2)) = some (inner, after)) :
      c :: rest = inner ++ (closing ++ after) := by
    obtain ⟨⟨inner', after'⟩, hfound, heq⟩ := Option.map_eq_some_iff.mp h
    obtain ⟨rfl, rfl⟩ := Prod.mk.inj heq
    rw [ih hfound]
    rfl
  fun_induction untilClose opening closing skip depth q s generalizing inner with
  | case1 => cases h
  | case2 depth q c rest skip ih => exact pass ih h
  | case3 depth q c rest hopen ih => exact pass ih h
  | case4 q c rest hopen hclose =>
    obtain ⟨rfl, rfl⟩ := Prod.mk.inj (Option.some.inj h)
    obtain ⟨suffix, hsuffix⟩ := Option.isSome_iff_exists.mp hclose.2
    have hs := Text.after?_eq_some_iff.mp hsuffix
    cases closing with
    | nil => exact absurd rfl hclosing
    | cons first closing =>
      obtain ⟨rfl, rfl⟩ := List.cons.inj hs
      simp
  | case5 q c rest hopen hclose depth ih => exact pass ih h
  | case6 depth q c rest hopen hclose ih => exact pass ih h

theorem joined_cut (first : Char) (opening : List Char) {closing : List Char}
    (hclosing : closing ≠ []) (s : List Char) :
    joined (first :: opening) closing (cut first opening closing s).holes
      (cut first opening closing s).tail = s := by
  fun_induction cut first opening closing s with
  | case1 => rfl
  | case2 => rfl
  | case3 s before rest hbreak inner after hclose hlength more ih =>
    have hs := Text.eq_of_breakOn? hbreak
    have hrest := eq_of_untilClose hclosing hclose
    show before ++ ((first :: opening ++ inner ++ closing) ++ joined _ _ more.holes more.tail) = s
    rw [ih, hs, hrest]
    simp

/-- The segments of a template put together are the template. -/
theorem joined_of (d : Delimiters) (template : List Char) :
    joined d.opening.toList d.closing.toList (of d template).holes (of d template).tail =
      template := by
  rw [of]
  split
  · rename_i first opening closing others hopening hclosing
    rw [hopening, hclosing]
    exact joined_cut first opening (List.cons_ne_nil _ _) template
  · rfl

/-! ## Offsets -/

theorem byteLength_eq_size (s : List Char) : byteLength s = s.utf8Encode.size := by
  have hfold : ∀ n, s.foldl (fun n c => n + c.utf8Size) n = n + s.utf8Encode.size := by
    induction s with
    | nil => intro n; simp
    | cons c rest ih =>
      intro n
      rw [List.foldl_cons, ih, List.utf8Encode_cons, ByteArray.size_append,
        List.utf8Encode_singleton, List.size_toByteArray, String.length_utf8EncodeChar]
      omega
  rw [byteLength, hfold, Nat.zero_add]

theorem byteLength_eq_utf8ByteSize (s : List Char) :
    byteLength s = (String.ofList s).utf8ByteSize := by
  rw [byteLength_eq_size, ← String.toByteArray_ofList, String.size_toByteArray]

theorem byteLength_append (s t : List Char) :
    byteLength (s ++ t) = byteLength s + byteLength t := by
  rw [byteLength_eq_size, List.utf8Encode_append, ByteArray.size_append, byteLength_eq_size,
    byteLength_eq_size]

theorem eq_nil_of_byteLength {s : List Char} (h : byteLength s = 0) : s = [] := by
  cases s with
  | nil => rfl
  | cons c rest =>
    have hsize := c.utf8Size_pos
    rw [byteLength_eq_size, List.utf8Encode_cons, ByteArray.size_append, List.utf8Encode_singleton,
      List.size_toByteArray, String.length_utf8EncodeChar] at h
    omega

theorem inner_referencesFrom (d : Delimiters) (offset : Nat) (holes : List Hole) :
    (referencesFrom d offset holes).map Reference.inner =
      holes.map fun hole => String.ofList (Text.trim hole.inner) := by
  induction holes generalizing offset with
  | nil => rfl
  | cons hole rest ih => exact congrArg (_ :: ·) (ih _)

theorem extract_middle (a b c : ByteArray) :
    (a ++ b ++ c).extract a.size (a.size + b.size) = b := by
  have h := ByteArray.extract_append_size_add (a := a) (b := b ++ c) (i := 0) (j := b.size)
  rw [Nat.add_zero, ByteArray.extract_append_eq_left rfl, ← ByteArray.append_assoc] at h
  exact h

/-- A template after a prefix of it, at its first expression. -/
theorem joined_cons (d : Delimiters) {text before : ByteArray} {hole : Hole}
    {rest : List Hole} {tail : List Char}
    (htext : text = before ++
      (joined d.opening.toList d.closing.toList (hole :: rest) tail).utf8Encode) :
    text = before ++ hole.before.utf8Encode ++
      (d.opening.toList ++ hole.inner ++ d.closing.toList).utf8Encode ++
        (joined d.opening.toList d.closing.toList rest tail).utf8Encode := by
  rw [htext, joined, List.utf8Encode_append, List.utf8Encode_append]
  simp only [ByteArray.append_assoc]

theorem referencesFrom_cons (d : Delimiters) (before : ByteArray) (hole : Hole)
    (rest : List Hole) :
    referencesFrom d before.size (hole :: rest) =
      { matched := String.ofList (d.opening.toList ++ hole.inner ++ d.closing.toList)
        inner := String.ofList (Text.trim hole.inner)
        start := (before ++ hole.before.utf8Encode).size
        stop := (before ++ hole.before.utf8Encode).size +
          (d.opening.toList ++ hole.inner ++ d.closing.toList).utf8Encode.size } ::
        referencesFrom d (before ++ hole.before.utf8Encode ++
          (d.opening.toList ++ hole.inner ++ d.closing.toList).utf8Encode).size rest := by
  rw [referencesFrom]
  simp only [ByteArray.size_append, byteLength_eq_size]

/-- Each reference stands between its offsets. -/
theorem extract_referencesFrom (d : Delimiters) {text before : ByteArray} {holes : List Hole}
    {tail : List Char}
    (htext : text = before ++ (joined d.opening.toList d.closing.toList holes tail).utf8Encode)
    {r : Reference} (hr : r ∈ referencesFrom d before.size holes) :
    text.extract r.start r.stop = r.matched.toByteArray := by
  induction holes generalizing before with
  | nil => cases hr
  | cons hole rest ih =>
    have hsplit := joined_cons d htext
    rw [referencesFrom_cons] at hr
    rcases List.mem_cons.mp hr with rfl | hrest
    · rw [hsplit, String.toByteArray_ofList]
      exact extract_middle _ _ _
    · exact ih hsplit hrest

end Segments

namespace Delimiters

theorem inner_references (d : Delimiters) (template : String) :
    (d.references template).map Reference.inner =
      (Segments.of d template.toList).holes.map
        fun hole => String.ofList (Text.trim hole.inner) :=
  Segments.inner_referencesFrom d 0 _

theorem toByteArray_eq_joined (d : Delimiters) (template : String) :
    template.toByteArray = ByteArray.empty ++
      (Segments.joined d.opening.toList d.closing.toList (Segments.of d template.toList).holes
        (Segments.of d template.toList).tail).utf8Encode := by
  rw [Segments.joined_of, ByteArray.empty_append, String.utf8Encode_toList]

theorem extract_references (d : Delimiters) {template : String} {r : Reference}
    (hr : r ∈ d.references template) :
    template.toByteArray.extract r.start r.stop = r.matched.toByteArray :=
  Segments.extract_referencesFrom d (d.toByteArray_eq_joined template) hr

end Delimiters
end QueryGateway
