import QueryGateway.Proofs.Expression.Balance
import QueryGateway.Proofs.Expression.Numeral
import QueryGateway.Proofs.Text.Blank
import QueryGateway.Proofs.Text.Split

/-!
Spelled texts.

The text of an expression starts and ends with characters that are not blank, and it is
balanced.  Outside its literals it holds no character that its segments avoid, and commas only
inside parentheses.
-/

namespace QueryGateway.Expr

open Text

/-! ## Texts of arguments -/

theorem Quoted.solid {text content : List Char} (h : Quoted text content) :
    Solid ('\'' :: text) := by
  refine ⟨⟨'\'', rfl, by decide⟩, '\'', ?_, by decide⟩
  rw [List.getLast?_cons, h.getLast?]
  rfl

theorem not_blank_name (source : Namespace) : ∀ c ∈ source.name.toList, isBlank c = false := by
  cases source <;> exact List.all_iff_forall_prop.mp (by decide)

theorem Spells.solid {s : List Char} {e : Expr} (h : Spells s e) : Solid s := by
  cases h with
  | @reference source segments valid =>
    refine solid_of_forall ?_ fun c hc => ?_
    · cases segments <;> cases source <;> exact List.cons_ne_nil _ _
    · rcases mem_intercalate hc with rfl | ⟨piece, hpiece, hc⟩
      · decide
      · rcases List.mem_cons.mp hpiece with rfl | hsegment
        · exact not_blank_name source c hc
        · exact ((valid piece hsegment).2 c hc).1
  | @call function left inside right args before arguments after arity =>
    refine ⟨?_, ')', ?_, by decide⟩
    · cases function <;> exact ⟨_, rfl, by decide⟩
    · rw [← List.cons_append, ← List.append_assoc]
      exact List.getLast?_concat

theorem SpellsArgument.solid {s : List Char} {e : Expr} (h : SpellsArgument s e) : Solid s := by
  cases h with
  | string quoted => exact quoted.solid
  | null => exact solid_of_forall (by decide) (List.all_iff_forall_prop.mp (by decide))
  | numeral number =>
    obtain ⟨hne, hchars⟩ := isNumeralChar_of_readNumber? number
    exact solid_of_forall hne fun c hc => isBlank_of_isNumeralChar (hchars c hc)
  | expression spelled => exact spelled.solid

theorem SpellsArguments.solid {s : List Char} {es : List Expr} (h : SpellsArguments s es)
    (hne : es ≠ []) : Solid s := by
  match h with
  | .none => exact absurd rfl hne
  | .one argument => exact argument.solid
  | @SpellsArguments.more s left right rest _ _ argument before after others nonempty =>
    have hall := argument.solid.append (left ++ ',' :: right) (others.solid nonempty)
    simpa only [List.append_assoc, List.cons_append] using hall

/-! ## Balance -/

/-- The characters that passes over a template or an expression look for. -/
def markup : List Char := ['\'', '(', ')', ',', '$', '{', '}']

theorem not_markup_of_blank {s : List Char} (h : allBlank s) : ∀ c ∈ s, c ∉ markup := by
  intro c hc hmarkup
  have hblank := List.all_eq_true.mp h c hc
  have hnone : ∀ c ∈ markup, isBlank c = false :=
    List.all_iff_forall_prop.mp (by decide)
  rw [hnone c hmarkup] at hblank
  cases hblank

theorem not_markup_of_isNumeralChar {c : Char} (h : isNumeralChar c) : c ∉ markup := by
  intro hmarkup
  have hnone : ∀ c ∈ markup, isNumeralChar c = false :=
    List.all_iff_forall_prop.mp (by decide)
  rw [hnone c hmarkup] at h
  cases h

theorem not_markup_name (function : Builtin) : ∀ c ∈ function.name.toList, c ∉ markup := by
  cases function <;> exact List.all_iff_forall_prop.mp (by decide)

theorem mem_reference {source : Namespace} {segments : List (List Char)} {c : Char}
    (h : c ∈ List.intercalate ['.'] (source.name.toList :: segments)) :
    c ∉ markup ∨ ∃ segment ∈ segments, c ∈ segment := by
  have hname : ∀ c ∈ source.name.toList, c ∉ markup := by
    cases source <;> exact List.all_iff_forall_prop.mp (by decide)
  rcases mem_intercalate h with rfl | ⟨piece, hpiece, hc⟩
  · exact .inl (by decide)
  · rcases List.mem_cons.mp hpiece with rfl | hsegment
    · exact .inl (hname c hc)
    · exact .inr ⟨piece, hsegment, hc⟩

theorem not_mem_reference {source : Namespace} {segments : List (List Char)}
    (valid : ∀ segment ∈ segments, SegmentText segment) :
    ∀ c ∈ ['\'', '(', ')', ','], c ∉ List.intercalate ['.'] (source.name.toList :: segments) := by
  intro c hmark hc
  rcases mem_reference hc with hmarkup | ⟨segment, hsegment, hc⟩
  · exact hmarkup (List.mem_append_left ['$', '{', '}'] hmark)
  · have hmarks : ['\'', '(', ')', ','] ⊆ ['.', '(', ')', '\'', ','] := by decide
    exact ((valid segment hsegment).2 c hc).2 (hmarks hmark)

mutual

/-- Whether no segment of the expression holds a barred character. -/
def Avoids (barred : List Char) : Expr → Prop
  | .ref _ segments => ∀ segment ∈ segments, ∀ c ∈ segment.toList, c ∉ barred
  | .call _ args => AllAvoid barred args
  | .literal _ => True

/-- Whether no segment of the expressions holds a barred character. -/
def AllAvoid (barred : List Char) : List Expr → Prop
  | [] => True
  | e :: rest => e.Avoids barred ∧ AllAvoid barred rest

end

mutual

theorem avoids_none (e : Expr) : e.Avoids [] := by
  match e with
  | .ref _ _ => exact fun _ _ _ _ => List.not_mem_nil
  | .call _ args => exact allAvoid_none args
  | .literal _ => trivial

theorem allAvoid_none (es : List Expr) : AllAvoid [] es := by
  match es with
  | [] => trivial
  | e :: rest => exact ⟨avoids_none e, allAvoid_none rest⟩

end

/-- Whether every character that is not barred can stand at every depth, commas perhaps only
inside parentheses. -/
structure Permits (barred : List Char) (plain : Nat → Char → Prop) : Prop where
  reserved : barred ⊆ ['$', '{', '}']
  other : ∀ {depth c}, c ≠ ',' → c ∉ barred → plain depth c
  comma : ∀ {depth}, plain (depth + 1) ','
  deeper : ∀ {below depth c}, plain depth c → plain (depth + below) c

section

variable {barred : List Char} {plain : Nat → Char → Prop} (hplain : Permits barred plain)

include hplain

/-- Text without markup can stand before balanced text. -/
theorem unmarked_balanced {s t : List Char} {depth : Nat} (hs : ∀ c ∈ s, c ∉ markup)
    (h : Balanced plain depth t) : Balanced plain depth (s ++ t) := by
  have hnot : ∀ {marks : List Char}, marks ⊆ markup → ∀ c ∈ s, c ∉ marks :=
    fun hmarks c hc hmark => hs c hc (hmarks hmark)
  refine h.ordinary_append (hnot (by decide)) fun c hc => hplain.other ?_ fun hbarred => ?_
  · have hcomma : [','] ⊆ markup := by decide
    exact List.ne_of_not_mem_cons (hnot hcomma c hc)
  · exact hnot (by decide) c hc (hplain.reserved hbarred)

theorem reference_balanced {source : Namespace} {segments : List (List Char)}
    (valid : ∀ segment ∈ segments, SegmentText segment)
    (havoids : (ref source (segments.map String.ofList)).Avoids barred) :
    Balanced plain 0 (List.intercalate ['.'] (source.name.toList :: segments)) := by
  rw [← List.append_nil (List.intercalate _ _)]
  refine Balanced.done.ordinary_append (fun c hc hmark => ?_) fun c hc => hplain.other ?_ ?_
  · exact not_mem_reference valid c (List.mem_append_left [','] hmark) hc
  · rintro rfl
    exact not_mem_reference valid ',' (by decide) hc
  · intro hbarred
    rcases mem_reference hc with hmarkup | ⟨segment, hsegment, hc⟩
    · exact hmarkup (List.mem_append_right ['\'', '(', ')', ','] (hplain.reserved hbarred))
    · exact havoids _ (List.mem_map_of_mem hsegment) c (by rwa [String.toList_ofList]) hbarred

theorem balanced_append {s t : List Char} {depth : Nat} (hs : Balanced plain 0 s)
    (ht : Balanced plain depth t) : Balanced plain depth (s ++ t) := by
  have hall := hs.append ht fun _ _ => hplain.deeper
  rwa [Nat.zero_add] at hall

mutual

theorem Spells.balanced {s : List Char} {e : Expr} (h : Spells s e) (havoids : e.Avoids barred) :
    Balanced plain 0 s := by
  match h with
  | .reference valid => exact reference_balanced hplain valid havoids
  | @Spells.call function left inside right _ before arguments after arity =>
    have hend : Balanced plain 1 (right ++ [')']) :=
      unmarked_balanced hplain (not_markup_of_blank after) (.closed .done)
    have hinside : Balanced plain 1 (left ++ (inside ++ (right ++ [')']))) :=
      unmarked_balanced hplain (not_markup_of_blank before)
        (arguments.balanced havoids hplain.comma hend)
    rw [List.append_assoc, List.append_assoc]
    exact unmarked_balanced hplain (not_markup_name function) (.opened hinside)

theorem SpellsArgument.balanced {s : List Char} {e : Expr} (h : SpellsArgument s e)
    (havoids : e.Avoids barred) : Balanced plain 0 s := by
  match h with
  | @SpellsArgument.string text _ quoted =>
    rw [← List.append_nil text]
    exact .literal quoted .done
  | .null =>
    have hnull : ∀ c ∈ "null".toList, c ∉ markup := List.all_iff_forall_prop.mp (by decide)
    exact unmarked_balanced hplain hnull .done
  | .numeral number =>
    rw [← List.append_nil s]
    exact unmarked_balanced hplain
      (fun c hc => not_markup_of_isNumeralChar ((isNumeralChar_of_readNumber? number).2 c hc)) .done
  | .expression spelled => exact spelled.balanced havoids

theorem SpellsArguments.balanced {s : List Char} {es : List Expr} (h : SpellsArguments s es)
    (havoids : AllAvoid barred es) {depth : Nat} {after : List Char} (hdepth : plain depth ',')
    (hafter : Balanced plain depth after) : Balanced plain depth (s ++ after) := by
  match h with
  | .none => exact hafter
  | .one argument => exact balanced_append hplain (argument.balanced havoids.1) hafter
  | .more argument before after others nonempty =>
    have hrest := unmarked_balanced hplain (not_markup_of_blank after)
      (others.balanced havoids.2 hdepth hafter)
    have hcommas := unmarked_balanced hplain (not_markup_of_blank before)
      (.char (by decide) hdepth hrest)
    have hall := balanced_append hplain (argument.balanced havoids.1) hcommas
    simpa only [List.append_assoc, List.cons_append] using hall

end

end

end QueryGateway.Expr
