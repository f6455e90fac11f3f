import QueryGateway.Proofs.Expression.Reading
import QueryGateway.Proofs.Expression.Segments
import QueryGateway.Proofs.Expression.Written

/-!
Written templates.

A template is written as plain text with canonical texts of expressions between delimiters.
Outside literals such a text holds no character that a delimiter starts with, so the scanner
goes over it as the readers do, and finds every expression where it was written.
-/

namespace QueryGateway

namespace Segments

open Text QueryGateway.Expr

/-! ## Cutting a text that was joined -/

theorem cut_plain {first : Char} {opening closing s : List Char}
    (h : ¬first :: opening <:+: s) : cut first opening closing s = { holes := [], tail := s } := by
  rw [cut]
  split
  · rfl
  · rename_i hbreak
    rw [breakOn?_eq_none h] at hbreak
    cases hbreak

theorem cut_hole {first : Char} {opening closing s before rest inner after : List Char}
    (hbreak : breakOn? (first :: opening) s = some (before, rest))
    (hclose : untilClose (first :: opening) closing 0 0 .outside rest = some (inner, after)) :
    cut first opening closing s =
      { holes := { before, inner } :: (cut first opening closing after).holes
        tail := (cut first opening closing after).tail } := by
  rw [cut]
  split
  · rename_i hnone
    rw [hbreak] at hnone
    cases hnone
  · rename_i before' rest' hfound
    obtain ⟨rfl, rfl⟩ := Prod.mk.inj (Option.some.inj (hbreak.symm.trans hfound))
    split
    · rename_i hnone
      rw [hclose] at hnone
      cases hnone
    · rename_i inner' after' hfound'
      obtain ⟨rfl, rfl⟩ := Prod.mk.inj (Option.some.inj (hclose.symm.trans hfound'))
      rfl

/-- Cutting is the converse of joining, where the plain text holds no opening delimiter and
every expression is closed by the delimiter after it. -/
theorem cut_joined {first : Char} {opening closing tail : List Char} {holes : List Hole}
    (hfirst : first ∉ opening) (hbefore : ∀ hole ∈ holes, ¬first :: opening <:+: hole.before)
    (hinner : ∀ hole ∈ holes, ∀ after,
      untilClose (first :: opening) closing 0 0 .outside (hole.inner ++ (closing ++ after)) =
        some (hole.inner, after))
    (htail : ¬first :: opening <:+: tail) :
    cut first opening closing (joined (first :: opening) closing holes tail) =
      { holes, tail } := by
  induction holes with
  | nil => exact cut_plain htail
  | cons hole rest ih =>
    -- No opening delimiter starts before the one written.
    have hbreak := breakOn?_append hfirst (hbefore hole List.mem_cons_self)
      (hole.inner ++ (closing ++ joined (first :: opening) closing rest tail))
    have hclose := hinner hole List.mem_cons_self (joined (first :: opening) closing rest tail)
    rw [joined, List.append_assoc, List.append_assoc, cut_hole hbreak hclose,
      ih (fun other h => hbefore other (List.mem_cons_of_mem _ h))
        fun other h => hinner other (List.mem_cons_of_mem _ h)]

/-! ## Scanning an expression -/

/-- The scanner for the standard delimiters, as a pass over the text of an expression. -/
def scan (_ : Nat) (q : Quoting) (s : List Char) : Option (List Char × List Char) :=
  untilClose ['$', '{', '{'] ['}', '}'] 0 0 q s

theorem scan_outside {c : Char} {depth : Nat} (hopening : c ≠ '$') (hclosing : c ≠ '}')
    (rest : List Char) :
    scan depth .outside (c :: rest) =
      (scan depth (Quoting.outside.step c rest.head?) rest).map fun p => (c :: p.1, p.2) := by
  rw [scan, untilClose, startsWith_cons_of_ne hopening.symm, startsWith_cons_of_ne hclosing.symm]
  rfl

theorem pass_scan : Pass (fun _ c => c ≠ '$' ∧ c ≠ '}') scan fun c p => (c :: p.1, p.2) where
  inside h := by
    rw [scan, untilClose]
    simp only [h, false_and, if_false]
    rfl
  quote := scan_outside (by decide) (by decide) _
  plain := by
    intro depth c rest hordinary hplain
    rw [scan_outside hplain.1 hplain.2, Quoting.step, if_neg (List.ne_of_not_mem_cons hordinary)]
  opened := scan_outside (by decide) (by decide) _
  closed := scan_outside (by decide) (by decide) _

theorem permits_scan : Permits ['$', '{', '}'] fun _ c => c ≠ '$' ∧ c ≠ '}' where
  reserved := List.Subset.refl _
  other _ h := by
    simp only [List.mem_cons, List.not_mem_nil, or_false, not_or] at h
    exact ⟨h.1, h.2.2⟩
  comma := ⟨by decide, by decide⟩
  deeper h := h

/-- The scanner goes over any text of an expression, whatever its literals hold. -/
theorem untilClose_spelled {s left right : List Char} {e : Expr} (h : Spells s e)
    (havoids : e.Avoids ['$', '{', '}']) (hleft : allBlank left) (hright : allBlank right)
    (after : List Char) :
    untilClose ['$', '{', '{'] ['}', '}'] 0 0 .outside
      (left ++ s ++ right ++ (['}', '}'] ++ after)) = some (left ++ s ++ right, after) := by
  have hend : Balanced (fun _ c => c ≠ '$' ∧ c ≠ '}') 0 (right ++ []) :=
    unmarked_balanced permits_scan (not_markup_of_blank hright) .done
  have hall : Balanced (fun _ c => c ≠ '$' ∧ c ≠ '}') 0 (left ++ (s ++ (right ++ []))) :=
    unmarked_balanced permits_scan (not_markup_of_blank hleft)
      (balanced_append permits_scan (h.balanced permits_scan havoids) hend)
  rw [List.append_nil, ← List.append_assoc] at hall
  show scan 0 .outside _ = _
  rw [pass_scan.over_balanced hall]
  show some ((left ++ s ++ right).foldr _ ([], after)) = _
  rw [foldr_keep, List.append_nil]

end Segments

/-! ## Templates -/

/-- An expression in a template: the plain text before it, and the blanks between its
canonical text and the delimiters. -/
structure Slot where
  before : List Char
  left : List Char
  expr : Expr
  right : List Char

namespace Slot

open Text QueryGateway.Expr Segments

/-- The text of the expression with its delimiters. -/
def delimited (slot : Slot) : List Char :=
  Delimiters.standard.opening.toList ++ (slot.left ++ slot.expr.written ++ slot.right) ++
    Delimiters.standard.closing.toList

/-- The template of some slots and the plain text after them. -/
def template (slots : List Slot) (tail : List Char) : List Char :=
  slots.flatMap (fun slot => slot.before ++ slot.delimited) ++ tail

/-- The reference to the expression, where `before` is all of the template before it. -/
def reference (slot : Slot) (before : List Char) : Reference where
  matched := String.ofList slot.delimited
  inner := String.ofList slot.expr.written
  start := (String.ofList before).utf8ByteSize
  stop := (String.ofList (before ++ slot.delimited)).utf8ByteSize

/-- Whether the slot holds a reference or a call that has a canonical text, and does not open
an expression before it. -/
structure Valid (slot : Slot) : Prop where
  plain : ¬Delimiters.standard.opening.toList <:+: slot.before
  blankLeft : allBlank slot.left
  blankRight : allBlank slot.right
  writable : slot.expr.Writable
  avoids : slot.expr.Avoids ['$', '{', '}']
  compound : slot.expr.isLiteral = false

/-- The slot as a scanner finds it. -/
def hole (slot : Slot) : Hole where
  before := slot.before
  inner := slot.left ++ slot.expr.written ++ slot.right

theorem template_cons (slot : Slot) (rest : List Slot) (tail : List Char) :
    template (slot :: rest) tail = slot.before ++ slot.delimited ++ template rest tail := by
  rw [template, List.flatMap_cons, List.append_assoc, template]

theorem template_eq_joined (slots : List Slot) (tail : List Char) :
    template slots tail = joined Delimiters.standard.opening.toList
      Delimiters.standard.closing.toList (slots.map hole) tail := by
  induction slots with
  | nil => rfl
  | cons slot rest ih =>
    rw [template_cons, ih, List.map_cons, joined, List.append_assoc]
    rfl

theorem Valid.spells {slot : Slot} (h : slot.Valid) : Spells slot.expr.written slot.expr :=
  h.writable.spells h.compound

theorem Valid.trim_inner {slot : Slot} (h : slot.Valid) :
    trim slot.hole.inner = slot.expr.written :=
  (trim_padded h.blankLeft h.blankRight _).trans h.spells.solid.trim_eq

/-- The scanner finds the slots of a template. -/
theorem of_template {slots : List Slot} {tail : List Char} (hslots : ∀ slot ∈ slots, slot.Valid)
    (htail : ¬Delimiters.standard.opening.toList <:+: tail) :
    Segments.of .standard (template slots tail) = { holes := slots.map hole, tail } := by
  rw [template_eq_joined]
  refine cut_joined (by decide) (fun found h => ?_) (fun found h after => ?_) htail
  · obtain ⟨slot, hslot, rfl⟩ := List.mem_map.mp h
    exact (hslots slot hslot).plain
  · obtain ⟨slot, hslot, rfl⟩ := List.mem_map.mp h
    have hvalid := hslots slot hslot
    exact untilClose_spelled hvalid.spells hvalid.avoids hvalid.blankLeft hvalid.blankRight after

theorem reference_eq (slot : Slot) (before : List Char) :
    slot.reference before =
      { matched := String.ofList slot.delimited
        inner := String.ofList slot.expr.written
        start := byteLength before
        stop := byteLength before + byteLength slot.delimited } := by
  rw [reference, ← byteLength_eq_utf8ByteSize, ← byteLength_eq_utf8ByteSize, byteLength_append]

theorem referencesFrom_slots {slots : List Slot} (hslots : ∀ slot ∈ slots, slot.Valid)
    (before : List Char) :
    referencesFrom .standard (byteLength before) (slots.map hole) =
      slots.mapIdx fun i slot =>
        slot.reference (before ++ template (slots.take i) slot.before) := by
  induction slots generalizing before with
  | nil => rfl
  | cons slot rest ih =>
    have hrest := ih (fun other h => hslots other (List.mem_cons_of_mem _ h))
      (before ++ slot.before ++ slot.delimited)
    rw [byteLength_append, byteLength_append] at hrest
    have htemplate : ∀ i (other : Slot),
        before ++ template ((slot :: rest).take (i + 1)) other.before =
          before ++ slot.before ++ slot.delimited ++ template (rest.take i) other.before :=
      fun i other => by rw [List.take_succ_cons, template_cons]; simp only [List.append_assoc]
    rw [List.map_cons, referencesFrom, List.mapIdx_cons]
    simp only [htemplate]
    refine congrArg₂ List.cons ?_ hrest
    show Reference.mk _ _ _ _ = slot.reference (before ++ slot.before)
    rw [(hslots slot List.mem_cons_self).trim_inner, reference_eq,
      byteLength_append before slot.before]
    rfl

/-- In a template of canonical texts exactly the expressions written are found, each where it
was written, and they are read back. -/
theorem references_template {slots : List Slot} {tail : List Char}
    (hslots : ∀ slot ∈ slots, slot.Valid)
    (htail : ¬Delimiters.standard.opening.toList <:+: tail) :
    Delimiters.standard.references (String.ofList (template slots tail)) =
        slots.mapIdx (fun i slot => slot.reference (template (slots.take i) slot.before)) ∧
      readTemplate .standard (template slots tail) = .ok (slots.map Slot.expr) := by
  constructor
  · rw [Delimiters.references, String.toList_ofList, of_template hslots htail]
    exact referencesFrom_slots hslots []
  · rw [readTemplate, of_template hslots htail]
    refine mapM_eq_ok_iff.mpr (List.forall₂_map_left_iff.mpr (List.forall₂_map_right_iff.mpr ?_))
    refine List.forall₂_same.mpr fun slot hslot => ?_
    have hvalid := hslots slot hslot
    rw [← read_trim, hvalid.trim_inner]
    exact hvalid.spells.read

/-- The literal of the first expression holds an escaped quote, a parenthesis, a comma and both
delimiters. -/
theorem references_template_quoted :
    Delimiters.standard.references
        "id = $\x7b\x7b default(body.id, 'it\\'s $\x7b\x7b(, \x7d\x7d') \x7d\x7d, $\x7b\x7bnow()\x7d\x7d!" =
      [{ matched := "$\x7b\x7b default(body.id, 'it\\'s $\x7b\x7b(, \x7d\x7d') \x7d\x7d"
         inner := "default(body.id, 'it\\'s $\x7b\x7b(, \x7d\x7d')"
         start := 5
         stop := 46 },
       { matched := "$\x7b\x7bnow()\x7d\x7d", inner := "now()", start := 48, stop := 58 }] ∧
    readTemplate .standard
        ("id = $\x7b\x7b default(body.id, 'it\\'s $\x7b\x7b(, \x7d\x7d') \x7d\x7d" ++
          ", $\x7b\x7bnow()\x7d\x7d!").toList =
      .ok [.call .default [.ref .body ["id"], .literal (.str "it's $\x7b\x7b(, \x7d\x7d")],
        .call .now []] := by
  have hvalid : ∀ slot ∈ ([
      { before := "id = ".toList
        left := [' ']
        expr := .call .default [.ref .body ["id"], .literal (.str "it's $\x7b\x7b(, \x7d\x7d")]
        right := [' '] },
      { before := ", ".toList, left := [], expr := .call .now [], right := [] }] : List Slot),
      slot.Valid := by
    refine List.forall_mem_cons.mpr ⟨?_, List.forall_mem_singleton.mpr ?_⟩
    · exact {
        plain := by decide
        blankLeft := rfl
        blankRight := rfl
        writable := ⟨rfl, List.forall_mem_singleton.mpr (by decide), nofun, trivial⟩
        avoids := ⟨List.forall_mem_singleton.mpr (List.all_iff_forall_prop.mp (by decide)),
          trivial, trivial⟩
        compound := rfl }
    · exact {
        plain := by decide
        blankLeft := rfl
        blankRight := rfl
        writable := ⟨rfl, trivial⟩
        avoids := trivial
        compound := rfl }
  have htail : ¬Delimiters.standard.opening.toList <:+: ['!'] := by decide
  have h := references_template hvalid htail
  exact ⟨h.1.trans (by decide +kernel), h.2⟩

end Slot
end QueryGateway
