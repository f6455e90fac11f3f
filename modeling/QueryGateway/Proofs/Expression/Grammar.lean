import QueryGateway.Expression.Reader

/-!
The grammar of expressions.

`Spells s e` says that the text `s`, without blanks around it, spells the expression `e`.  An
expression is a reference or a call; literals stand only as arguments.  Blanks may stand
around the arguments of a call, and nowhere else outside literals.
-/

namespace QueryGateway.Expr

open Text (allBlank isBlank)

/-- The text of a segment: not empty, and without dots, blanks, parentheses, quotes and
commas. -/
def SegmentText (s : List Char) : Prop :=
  s ≠ [] ∧ ∀ c ∈ s, isBlank c = false ∧ c ∉ ['.', '(', ')', '\'', ',']

/-- The text of a literal after its opening quote, and the content that it stands for.  A
backslash directly before a quote escapes it; every other character stands for itself. -/
inductive Quoted : List Char → List Char → Prop
  | closed : Quoted ['\''] []
  | escaped {text content : List Char} (rest : Quoted text content) :
    Quoted ('\\' :: '\'' :: text) ('\'' :: content)
  | plain {c : Char} {text content : List Char} (quote : c ≠ '\'')
    (escape : ¬(c = '\\' ∧ text.head? = some '\'')) (rest : Quoted text content) :
    Quoted (c :: text) (c :: content)

mutual

/-- The texts of expressions. -/
inductive Spells : List Char → Expr → Prop
  | reference {source : Namespace} {segments : List (List Char)}
    (valid : ∀ segment ∈ segments, SegmentText segment) :
    Spells (List.intercalate ['.'] (source.name.toList :: segments))
      (.ref source (segments.map String.ofList))
  | call {function : Builtin} {left inside right : List Char} {args : List Expr}
    (before : allBlank left) (arguments : SpellsArguments inside args) (after : allBlank right)
    (arity : args.length = function.arity) :
    Spells (function.name.toList ++ '(' :: (left ++ inside ++ right ++ [')']))
      (.call function args)

/-- The texts of arguments. -/
inductive SpellsArgument : List Char → Expr → Prop
  | string {text content : List Char} (quoted : Quoted text content) :
    SpellsArgument ('\'' :: text) (.literal (.str (String.ofList content)))
  | null : SpellsArgument "null".toList (.literal .null)
  | numeral {s : List Char} {n : Number} (number : readNumber? s = some n) :
    SpellsArgument s (.literal (.num n))
  | expression {s : List Char} {e : Expr} (spelled : Spells s e) : SpellsArgument s e

/-- The texts of lists of arguments, with commas between them. -/
inductive SpellsArguments : List Char → List Expr → Prop
  | none : SpellsArguments [] []
  | one {s : List Char} {e : Expr} (argument : SpellsArgument s e) : SpellsArguments s [e]
  | more {s left right rest : List Char} {e : Expr} {es : List Expr}
    (argument : SpellsArgument s e) (before : allBlank left) (after : allBlank right)
    (others : SpellsArguments rest es) (nonempty : es ≠ []) :
    SpellsArguments (s ++ left ++ ',' :: (right ++ rest)) (e :: es)

end

/-! ## Segments -/

theorem segmentText_iff {s : List Char} : SegmentText s ↔ isSegment s = true ∧ '.' ∉ s := by
  simp only [SegmentText, isSegment, Bool.and_eq_true, Bool.not_eq_true', List.isEmpty_eq_false_iff,
    List.any_eq_false, Bool.or_eq_true, beq_iff_eq, not_or, Bool.not_eq_true, List.mem_cons,
    List.not_mem_nil, not_false_eq_true, and_true]
  constructor
  · rintro ⟨hne, h⟩
    refine ⟨⟨hne, fun c hc => ?_⟩, fun hdot => (h '.' hdot).2.1 rfl⟩
    obtain ⟨hblank, -, hopen, hclose, hquote, hcomma⟩ := h c hc
    exact ⟨⟨⟨⟨hblank, hopen⟩, hclose⟩, hquote⟩, hcomma⟩
  · rintro ⟨⟨hne, h⟩, hdot⟩
    refine ⟨hne, fun c hc => ?_⟩
    obtain ⟨⟨⟨⟨hblank, hopen⟩, hclose⟩, hquote⟩, hcomma⟩ := h c hc
    exact ⟨hblank, fun heq => hdot (heq ▸ hc), hopen, hclose, hquote, hcomma⟩

/-! ## Literals -/

theorem Quoted.ne_nil {text content : List Char} (h : Quoted text content) : text ≠ [] := by
  cases h <;> exact List.cons_ne_nil _ _

theorem Quoted.getLast? {text content : List Char} (h : Quoted text content) :
    text.getLast? = some '\'' := by
  induction h with
  | closed => rfl
  | escaped rest ih =>
    rw [List.getLast?_cons, List.getLast?_cons, ih]
    rfl
  | plain quote escape rest ih =>
    rw [List.getLast?_cons, ih]
    rfl

theorem Quoted.head?_append {text content : List Char} (h : Quoted text content)
    (after : List Char) : (text ++ after).head? = text.head? := by
  cases text with
  | nil => exact absurd rfl h.ne_nil
  | cons c rest => rfl

theorem Quoted.step {c : Char} {next : Option Char} (quote : c ≠ '\'')
    (escape : ¬(c = '\\' ∧ next = some '\'')) : Quoting.inside.step c next = .inside := by
  rw [Quoting.step, if_neg escape, if_neg quote]

end QueryGateway.Expr
