import QueryGateway.Json.Printer
import QueryGateway.Proofs.Expression.Grammar
import QueryGateway.Proofs.Expression.Numeral

/-!
Writing expressions.

Every expression with the right numbers of arguments has a canonical text, unless it holds a
literal that no text stands for, such as a string that ends in a backslash.  The canonical text
spells the expression (`Writable.spells`).
-/

namespace QueryGateway.Expr

open Text (allBlank allBlank_nil)

/-! ## Canonical texts -/

/-- The content of a literal with its quotes escaped. -/
def escaped : List Char → List Char
  | [] => []
  | c :: rest => if c = '\'' then '\\' :: c :: escaped rest else c :: escaped rest

/-- A literal.  Strings stand between single quotes, everything else as in JSON. -/
def writtenLiteral : Json → List Char
  | .str s => '\'' :: (escaped s.toList ++ ['\''])
  | value => value.text.toList

mutual

/-- The canonical text of an expression. -/
def written : Expr → List Char
  | .ref source segments =>
    List.intercalate ['.'] (source.name.toList :: segments.map String.toList)
  | .call function args =>
    function.name.toList ++ '(' :: (List.intercalate [',', ' '] (writtenAll args) ++ [')'])
  | .literal value => writtenLiteral value

/-- The canonical texts of expressions. -/
def writtenAll : List Expr → List (List Char)
  | [] => []
  | e :: rest => e.written :: writtenAll rest

end

/-- Whether a text stands for a literal: null, an integer of a signed word, or a string that
does not end in a backslash. -/
def WritableLiteral : Json → Prop
  | .null => True
  | .num (.int n) => Number.fitsSigned n
  | .str s => s.toList.getLast? ≠ some '\\'
  | _ => False

mutual

/-- Whether calls have their number of arguments, and segments and literals have texts. -/
def Writable : Expr → Prop
  | .ref _ segments => ∀ segment ∈ segments, isSegment segment.toList ∧ '.' ∉ segment.toList
  | .call function args => args.length = function.arity ∧ AllWritable args
  | .literal value => WritableLiteral value

/-- Whether all of the expressions are writable. -/
def AllWritable : List Expr → Prop
  | [] => True
  | e :: rest => e.Writable ∧ AllWritable rest

end

/-- Whether the expression is a literal. -/
def isLiteral : Expr → Bool
  | .literal _ => true
  | _ => false

/-! ## They spell the expressions -/

theorem eq_nil_of_head?_escaped {content : List Char}
    (h : (escaped content ++ ['\'']).head? = some '\'') : content = [] := by
  cases content with
  | nil => rfl
  | cons c rest =>
    rw [escaped] at h
    by_cases hquote : c = '\''
    · rw [if_pos hquote] at h
      cases h
    · rw [if_neg hquote] at h
      exact absurd (Option.some.inj h) hquote

theorem quoted_escaped {content : List Char} (h : content.getLast? ≠ some '\\') :
    Quoted (escaped content ++ ['\'']) content := by
  induction content with
  | nil => exact .closed
  | cons c rest ih =>
    rw [escaped]
    by_cases hquote : c = '\''
    · rw [if_pos hquote, hquote]
      refine .escaped (ih fun hlast => h ?_)
      rw [List.getLast?_cons, hlast]
      rfl
    · rw [if_neg hquote]
      refine .plain hquote ?_ (ih fun hlast => h ?_)
      · rintro ⟨rfl, hhead⟩
        rw [eq_nil_of_head?_escaped hhead] at h
        exact h rfl
      · rw [List.getLast?_cons, hlast]
        rfl

theorem WritableLiteral.spells {value : Json} (h : WritableLiteral value) :
    SpellsArgument (writtenLiteral value) (.literal value) := by
  match value with
  | .null => exact .null
  | .num (.int n) => exact .numeral (readNumber?_text h)
  | .str s =>
    have hquoted := SpellsArgument.string (quoted_escaped h)
    rwa [String.ofList_toList] at hquoted
  | .bool _ => exact h.elim
  | .num (.float _) => exact h.elim
  | .arr _ => exact h.elim
  | .obj _ => exact h.elim

theorem Writable.spells_ref {source : Namespace} {segments : List String}
    (h : (ref source segments).Writable) :
    Spells (written (.ref source segments)) (.ref source segments) := by
  have hvalid : ∀ text ∈ segments.map String.toList, SegmentText text := by
    intro text htext
    obtain ⟨segment, hsegment, rfl⟩ := List.mem_map.mp htext
    exact segmentText_iff.mpr (h segment hsegment)
  have hspells := @Spells.reference source _ hvalid
  rw [List.map_map] at hspells
  simpa only [written, Function.comp_def, String.ofList_toList, List.map_id'] using hspells

mutual

theorem Writable.spellsArgument {e : Expr} (h : e.Writable) : SpellsArgument e.written e := by
  match e with
  | .ref source segments => exact .expression h.spells_ref
  | .call function args =>
    have hspells := Spells.call allBlank_nil (AllWritable.spells h.2) allBlank_nil h.1
    rw [written]
    simpa only [List.append_nil, List.nil_append] using SpellsArgument.expression hspells
  | .literal value =>
    rw [written]
    exact WritableLiteral.spells h

theorem AllWritable.spells {es : List Expr} (h : AllWritable es) :
    SpellsArguments (List.intercalate [',', ' '] (writtenAll es)) es := by
  match es with
  | [] => exact .none
  | [e] =>
    rw [writtenAll, writtenAll, List.intercalate_singleton]
    exact .one h.1.spellsArgument
  | e :: second :: rest =>
    have hrest : SpellsArguments (List.intercalate [',', ' '] (writtenAll (second :: rest)))
      (second :: rest) := AllWritable.spells h.2
    have hspace : allBlank [' '] := rfl
    have hall := SpellsArguments.more h.1.spellsArgument allBlank_nil hspace hrest
      (List.cons_ne_nil _ _)
    rw [writtenAll, writtenAll, List.intercalate_cons_cons]
    simpa only [writtenAll, List.append_nil, List.append_assoc, List.cons_append,
      List.nil_append] using hall

end

theorem SpellsArgument.spells {s : List Char} {e : Expr} (h : SpellsArgument s e)
    (hliteral : e.isLiteral = false) : Spells s e := by
  cases h with
  | string quoted => cases hliteral
  | null => cases hliteral
  | numeral number => cases hliteral
  | expression spelled => exact spelled

/-- The canonical text of a reference or a call spells it. -/
theorem Writable.spells {e : Expr} (h : e.Writable) (hliteral : e.isLiteral = false) :
    Spells e.written e :=
  h.spellsArgument.spells hliteral

end QueryGateway.Expr
