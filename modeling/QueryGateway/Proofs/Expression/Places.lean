import QueryGateway.Proofs.Expression.Offsets

/-!
Where the expressions of a template stand.

A template is cut at the first opening delimiter that is left and at the closing delimiter that
belongs to it, again and again (`Cuts`).  The references follow from this: they stand in order and
apart, no opening delimiter is passed over before or between them, and an opening delimiter after
the last of them is not closed (`references_stand`).
-/

namespace QueryGateway

namespace Segments

open Text

/-- The holes of a text and what is left of it after them. -/
inductive Cuts (opening closing : List Char) :
    (s : List Char) → List Hole → (tail : List Char) → Prop
  | plain {s : List Char} (unclosed : ∀ before rest after, FirstIn opening s before rest →
      ¬Closes opening closing 0 rest after) : Cuts opening closing s [] s
  | hole {s before inner after tail : List Char} {holes : List Hole}
    (opened : FirstIn opening s before (inner ++ (closing ++ after)))
    (closed : Closes opening closing 0 (inner ++ (closing ++ after)) after)
    (rest : Cuts opening closing after holes tail) :
    Cuts opening closing s ({ before, inner } :: holes) tail

theorem cuts_cut (first : Char) (opening : List Char) {closing : List Char}
    (hclosing : closing ≠ []) (s : List Char) :
    Cuts (first :: opening) closing s (cut first opening closing s).holes
      (cut first opening closing s).tail := by
  fun_induction cut first opening closing s with
  | case1 s hbreak =>
    refine .plain fun before rest after hfirst => ?_
    rw [breakOn?_eq_some_iff.mpr hfirst] at hbreak
    cases hbreak
  | case2 s before rest hbreak hclose =>
    refine .plain fun before' rest' after hfirst hcloses => ?_
    obtain ⟨rfl, rfl⟩ := Prod.mk.inj
      (Option.some.inj (hbreak.symm.trans (breakOn?_eq_some_iff.mpr hfirst)))
    obtain ⟨inner, hfound⟩ := (closes_iff (List.cons_ne_nil _ _) hclosing).mp hcloses
    rw [hfound] at hclose
    cases hclose
  | case3 s before rest hbreak inner after hclose hlength more ih =>
    have hcloses := (closes_iff (List.cons_ne_nil _ _) hclosing).mpr ⟨inner, hclose⟩
    obtain rfl := eq_of_untilClose hclosing hclose
    exact .hole (breakOn?_eq_some_iff.mp hbreak) hcloses ih

end Segments

open Segments Text

namespace Reference

/-- Where the text after some references starts, if the text before them starts at `offset`. -/
def behind : (offset : Nat) → List Reference → Nat
  | offset, [] => offset
  | _, r :: rest => behind r.stop rest

/-- The reference stands in the template where its offsets say: between them is an opening
delimiter, the text of the expression, and the closing delimiter that belongs to the opening
one. -/
structure StandsIn (d : Delimiters) (template : List Char) (r : Reference) : Prop where
  nonempty : r.start < r.stop
  bounded : r.stop ≤ byteLength template
  matched : slice? template r.start r.stop = some r.matched.toList
  inner : ∃ inner after,
    slice? template (r.start + byteLength d.opening.toList)
      (r.stop - byteLength d.closing.toList) = some inner ∧
    slice? template r.stop (byteLength template) = some after ∧
    r.matched.toList = d.opening.toList ++ inner ++ d.closing.toList ∧
    r.inner = String.ofList (trim inner) ∧
    Closes d.opening.toList d.closing.toList 0 (inner ++ (d.closing.toList ++ after)) after

end Reference

/-- The reference to a hole, where `front` is all of the template before the segment. -/
def Hole.reference (d : Delimiters) (front : List Char) (hole : Hole) : Reference where
  matched := String.ofList (d.opening.toList ++ hole.inner ++ d.closing.toList)
  inner := String.ofList (trim hole.inner)
  start := byteLength (front ++ hole.before)
  stop := byteLength (front ++ hole.before ++ (d.opening.toList ++ hole.inner ++ d.closing.toList))

namespace Segments

variable {d : Delimiters} {s tail : List Char} {holes : List Hole}

theorem referencesFrom_hole (d : Delimiters) (front : List Char) (hole : Hole) (rest : List Hole) :
    referencesFrom d (byteLength front) (hole :: rest) = hole.reference d front ::
      referencesFrom d (byteLength
        (front ++ hole.before ++ (d.opening.toList ++ hole.inner ++ d.closing.toList))) rest := by
  rw [referencesFrom, Hole.reference]
  simp only [byteLength_append]

theorem le_start_of_mem {offset : Nat} {r : Reference} (h : r ∈ referencesFrom d offset holes) :
    offset ≤ r.start := by
  induction holes generalizing offset with
  | nil => cases h
  | cons hole rest ih =>
    rcases List.mem_cons.mp h with rfl | hrest
    · exact Nat.le_add_right _ _
    · have hle := ih hrest
      omega

theorem pairwise_referencesFrom (d : Delimiters) (offset : Nat) (holes : List Hole) :
    (referencesFrom d offset holes).Pairwise fun r next => r.stop ≤ next.start := by
  induction holes generalizing offset with
  | nil => exact .nil
  | cons hole rest ih => exact .cons (fun _ => le_start_of_mem) (ih _)

/-- A template at the first hole of a text in it. -/
theorem front_append {opening closing before inner after : List Char}
    (hs : s = before ++ (opening ++ (inner ++ (closing ++ after)))) (front : List Char) :
    front ++ s = front ++ before ++ (opening ++ inner ++ closing) ++ after := by
  rw [hs]
  simp only [List.append_assoc]

theorem standsIn_hole (hopening : d.opening.toList ≠ []) {template front after : List Char}
    {hole : Hole} (htemplate : template = front ++ hole.before ++
      (d.opening.toList ++ hole.inner ++ d.closing.toList) ++ after)
    (closed : Closes d.opening.toList d.closing.toList 0
      (hole.inner ++ (d.closing.toList ++ after)) after) :
    (hole.reference d front).StandsIn d template := by
  have hlength : 0 < byteLength d.opening.toList :=
    Nat.pos_of_ne_zero fun h => hopening (eq_nil_of_byteLength h)
  have hinside : (hole.reference d front).start + byteLength d.opening.toList =
      byteLength (front ++ hole.before ++ d.opening.toList) := (byteLength_append ..).symm
  have hstop : (hole.reference d front).stop =
      byteLength (front ++ hole.before ++ d.opening.toList) + byteLength hole.inner +
        byteLength d.closing.toList := by
    simp only [Hole.reference, byteLength_append, Nat.add_assoc]
  have hend : byteLength template = (hole.reference d front).stop + byteLength after := by
    rw [htemplate]
    exact byteLength_append _ after
  have hmatched : (hole.reference d front).matched.toList =
      d.opening.toList ++ hole.inner ++ d.closing.toList := String.toList_ofList
  refine ⟨by omega, by omega, ?_, hole.inner, after, ?_, ?_, hmatched, rfl, closed⟩
  · rw [hmatched]
    exact slice?_of_eq (front ++ hole.before) _ after htemplate rfl (byteLength_append ..).symm
  · exact slice?_of_eq (front ++ hole.before ++ d.opening.toList) hole.inner
      (d.closing.toList ++ after) (by simp [htemplate]) hinside.symm (by omega)
  · exact slice?_of_eq _ after [] (by rw [htemplate, List.append_nil]) rfl hend.symm

theorem Cuts.standsIn (h : Cuts d.opening.toList d.closing.toList s holes tail)
    (hopening : d.opening.toList ≠ []) (front : List Char) {r : Reference}
    (hr : r ∈ referencesFrom d (byteLength front) holes) : r.StandsIn d (front ++ s) := by
  induction h generalizing front with
  | plain => cases hr
  | hole opened closed _ ih =>
    have htemplate := front_append opened.1 front
    rw [referencesFrom_hole] at hr
    rcases List.mem_cons.mp hr with rfl | hrest
    · exact standsIn_hole hopening htemplate closed
    · rw [htemplate]
      exact ih _ hrest

/-- No opening delimiter occurs in the text between a reference and what is before it. -/
theorem Cuts.gap (h : Cuts d.opening.toList d.closing.toList s holes tail)
    (hopening : d.opening.toList ≠ []) (front : List Char) {earlier later : List Reference}
    {r : Reference} (hr : referencesFrom d (byteLength front) holes = earlier ++ r :: later) :
    ∃ gap, slice? (front ++ s) (Reference.behind (byteLength front) earlier) r.start = some gap ∧
      ¬d.opening.toList <:+: gap := by
  induction h generalizing front earlier with
  | plain => exact absurd hr (by simp [referencesFrom])
  | @hole s before inner after tail holes opened closed _ ih =>
    have htemplate := front_append opened.1 front
    rw [referencesFrom_hole] at hr
    cases earlier with
    | nil =>
      obtain ⟨rfl, -⟩ := List.cons.inj hr
      refine ⟨before, ?_, opened.not_infix hopening⟩
      exact slice?_of_eq front before _ (htemplate.trans (List.append_assoc ..)) rfl
        (byteLength_append ..).symm
    | cons first earlier =>
      obtain ⟨rfl, hrest⟩ := List.cons.inj hr
      rw [htemplate]
      exact ih _ hrest

/-- What is left after the last reference, and that it is not closed. -/
theorem Cuts.slice?_tail (h : Cuts d.opening.toList d.closing.toList s holes tail)
    (front : List Char) :
    slice? (front ++ s)
      (Reference.behind (byteLength front) (referencesFrom d (byteLength front) holes))
      (byteLength (front ++ s)) = some tail := by
  induction h generalizing front with
  | plain => exact slice?_of_eq front _ [] (List.append_nil _).symm rfl (byteLength_append ..).symm
  | hole opened _ _ ih =>
    rw [front_append opened.1 front, referencesFrom_hole]
    exact ih _

theorem Cuts.unclosed {opening closing : List Char} (h : Cuts opening closing s holes tail) :
    ¬opening <:+: tail ∨ ∃ before rest, FirstIn opening tail before rest ∧
      ∀ after, ¬Closes opening closing 0 rest after := by
  induction h with
  | @plain s unclosed =>
    cases hbreak : breakOn? opening s with
    | none => exact .inl (breakOn?_eq_none_iff.mp hbreak)
    | some found =>
      have hfirst := breakOn?_eq_some_iff.mp hbreak
      exact .inr ⟨found.1, found.2, hfirst, fun after => unclosed _ _ after hfirst⟩
  | hole _ _ _ ih => exact ih

end Segments

namespace Delimiters

/-- The scan of a template finds references without a slice that fails.  They are in order and
apart, and each is a delimited text in the template.  No opening delimiter occurs before or
between them, and the first one after them has no closing delimiter. -/
theorem references_stand (d : Delimiters) (hopening : d.opening ≠ "") (hclosing : d.closing ≠ "")
    (template : String) :
    d.scan? hopening hclosing template = some (d.references template) ∧
    (d.references template).Pairwise (fun r next => r.stop ≤ next.start) ∧
    (∀ r ∈ d.references template, r.StandsIn d template.toList) ∧
    (∀ earlier r later, d.references template = earlier ++ r :: later →
      ∃ gap, slice? template.toList (Reference.behind 0 earlier) r.start = some gap ∧
        ¬d.opening.toList <:+: gap) ∧
    ∃ tail, slice? template.toList (Reference.behind 0 (d.references template))
        (byteLength template.toList) = some tail ∧
      (¬d.opening.toList <:+: tail ∨ ∃ before rest, FirstIn d.opening.toList tail before rest ∧
        ∀ after, ¬Closes d.opening.toList d.closing.toList 0 rest after) := by
  have hopening' : d.opening.toList ≠ [] := fun h => hopening (String.toList_eq_nil_iff.mp h)
  have hclosing' : d.closing.toList ≠ [] := fun h => hclosing (String.toList_eq_nil_iff.mp h)
  have hcuts : Cuts d.opening.toList d.closing.toList template.toList
      (of d template.toList).holes (of d template.toList).tail := by
    obtain ⟨first, opening, hfirst⟩ := List.exists_cons_of_ne_nil hopening'
    rw [of_eq_cut hfirst hclosing', hfirst]
    exact cuts_cut first opening hclosing' template.toList
  exact ⟨d.scan?_eq hopening hclosing template, pairwise_referencesFrom d 0 _,
    fun r hr => hcuts.standsIn hopening' [] hr,
    fun earlier r later hr => hcuts.gap hopening' [] hr,
    _, hcuts.slice?_tail [], hcuts.unclosed⟩

/-- Longer characters as delimiters. -/
def guillemets : Delimiters := { opening := "«", closing := "»" }

theorem references_stand_guillemets :
    guillemets.opening ≠ "" ∧ guillemets.closing ≠ "" ∧
    guillemets.references "é «f('»', «x») » ✓ «y" =
      [{ matched := "«f('»', «x») »", inner := "f('»', «x»)", start := 3, stop := 22 }] ∧
    Reference.StandsIn guillemets "é «f('»', «x») » ✓ «y".toList
      { matched := "«f('»', «x») »", inner := "f('»', «x»)", start := 3, stop := 22 } := by
  have hreferences : guillemets.references "é «f('»', «x») » ✓ «y" =
      [{ matched := "«f('»', «x») »", inner := "f('»', «x»)", start := 3, stop := 22 }] := by
    decide +kernel
  refine ⟨by decide, by decide, hreferences, ?_⟩
  obtain ⟨-, -, hstands, -⟩ := references_stand guillemets (by decide) (by decide)
    "é «f('»', «x») » ✓ «y"
  exact hstands _ (hreferences ▸ List.mem_singleton_self _)

end Delimiters
end QueryGateway
