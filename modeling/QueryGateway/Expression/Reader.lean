import QueryGateway.Expression.Basic
import QueryGateway.Expression.Segments
import QueryGateway.Number.Decimal

/-!
Reading expressions.

A text is a call if it starts with an identifier directly followed by a
parenthesis, and a reference otherwise.  A call is taken apart from the outside:
its last parenthesis, its name, the pieces between its commas, and then each
piece by itself, which is shorter than the call.
-/

namespace QueryGateway.Expr

open Text

/-- The result of reading an expression. -/
abbrev Reading := Except ExpressionError

def isLetter (c : Char) : Bool := c.isAlpha || c == '_'

/-- Whether the text starts with an identifier and a parenthesis. -/
def isCall : List Char → Bool
  | [] => false
  | c :: rest =>
    isLetter c && (rest.dropWhile fun c => isLetter c || c.isDigit).head? == some '('

/-- Whether a text can stand between the dots of a reference. -/
def isSegment (s : List Char) : Bool :=
  !s.isEmpty && !s.any fun c => isBlank c || c == '(' || c == ')' || c == '\'' || c == ','

/-- Reads a namespace followed by segments. -/
def readReference (s : List Char) : Reading (Namespace × List String) :=
  let inner := trim s
  match split '.' inner with
  | [] => .error (.unknownNamespace "" (String.ofList inner))
  | head :: segments =>
    match Namespace.named? (String.ofList head) with
    | none => .error (.unknownNamespace (String.ofList head) (String.ofList inner))
    | some source =>
      if segments.all isSegment then .ok (source, segments.map String.ofList)
      else .error (.invalidReference (String.ofList inner))

/-- The text up to the parenthesis that closes the one just passed, and the text
after it.  `depth` is the number of parentheses opened since. -/
def untilParenthesis : (depth : Nat) → Quoting → List Char → Option (List Char × List Char)
  | _, _, [] => none
  | depth, q, c :: rest =>
    if q = .outside ∧ c = ')' then
      match depth with
      | 0 => some ([], rest)
      | depth + 1 =>
        (untilParenthesis depth q rest).map fun (inside, after) => (c :: inside, after)
    else
      let depth := if q = .outside ∧ c = '(' then depth + 1 else depth
      (untilParenthesis depth (q.step c rest.head?) rest).map
        fun (inside, after) => (c :: inside, after)

/-- Puts a character in front of the first piece. -/
def ontoFirst (c : Char) : List (List Char) → List (List Char)
  | [] => [[c]]
  | piece :: pieces => (c :: piece) :: pieces

/-- The pieces between the commas that stand outside literals and parentheses, or
nothing when those are unbalanced. -/
def pieces? : (depth : Nat) → Quoting → List Char → Option (List (List Char))
  | depth, q, [] => if depth = 0 ∧ q = .outside then some [[]] else none
  | depth, q, c :: rest =>
    if q = .outside ∧ c = ',' ∧ depth = 0 then (pieces? depth q rest).map ([] :: ·)
    else if q = .outside ∧ c = ')' then
      match depth with
      | 0 => none
      | depth + 1 => (pieces? depth q rest).map (ontoFirst c)
    else
      let depth := if q = .outside ∧ c = '(' then depth + 1 else depth
      (pieces? depth (q.step c rest.head?) rest).map (ontoFirst c)

/-- Splits the text between the parentheses of a call into its arguments, without
the blanks around them. -/
def splitArguments (s : List Char) : Reading (List (List Char)) :=
  let trimmed := trim s
  if trimmed.isEmpty then .ok []
  else
    match pieces? 0 .outside trimmed with
    | none => .error (.unbalanced (String.ofList trimmed))
    | some pieces =>
      let arguments := pieces.map trim
      if arguments.any List.isEmpty then .error (.emptyArgument (String.ofList trimmed))
      else .ok arguments

/-- The content of a literal up to its closing quote, and the text after it.  The
backslash of an escaped quote is dropped. -/
def literalContent : Quoting → List Char → Option (List Char × List Char)
  | _, [] => none
  | q, c :: rest =>
    if q = .inside ∧ c = '\'' then some ([], rest)
    else
      let next := q.step c rest.head?
      (literalContent next rest).map fun (content, after) =>
        (if next = .escaped then content else c :: content, after)

/-- Reads a whole decimal numeral: a sign or none, digits with at most one point
among or around them, and an exponent or none. -/
def decimal? (s : List Char) : Option Decimal := do
  let (negative, unsigned) := match s with
    | '-' :: rest => (true, rest)
    | s => (false, s)
  let (whole, rest) := Decimal.takeDigits unsigned
  let (fraction, rest) := match rest with
    | '.' :: rest => Decimal.takeDigits rest
    | rest => ([], rest)
  if whole.isEmpty ∧ fraction.isEmpty then none
  else do
    let (exponent, rest) ← Decimal.takeExponent rest
    if rest.isEmpty then some { negative, whole, fraction, exponent } else none

/-- Reads a numeral argument: an integer if it has digits only and fits in a
signed 64-bit word, and otherwise the nearest binary64 number. -/
def readNumber? (s : List Char) : Option Number := do
  let d ← decimal? s
  let size : Int := Decimal.digitsValue d.whole
  let value := if d.negative then -size else size
  let digitsOnly := (if d.negative then s.drop 1 else s).all Char.isDigit
  if digitsOnly ∧ Number.fitsSigned value then some (.int value)
  else (d.toBinary64?).map .float

/-- Reads an argument that is a literal; anything else gives nothing. -/
def readLiteral? (s : List Char) : Option (Reading Json) :=
  match s with
  | '\'' :: rest =>
    match literalContent .inside rest with
    | none => some (.error (.unterminatedLiteral (String.ofList s)))
    | some (content, after) =>
      if after.isEmpty then some (.ok (.str (String.ofList content)))
      else some (.error (.textAfterLiteral (String.ofList s)))
  | _ =>
    if s = ['n', 'u', 'l', 'l'] then some (.ok .null)
    else (readNumber? s).map fun n => .ok (.num n)

theorem length_untilParenthesis {depth : Nat} {q : Quoting} {s inside after : List Char}
    (h : untilParenthesis depth q s = some (inside, after)) : inside.length < s.length := by
  fun_induction untilParenthesis depth q s generalizing inside with
  | case1 => simp at h
  | case2 => simp_all
  | case3 q c rest _ depth ih =>
    simp only [Option.map_eq_some_iff, Prod.mk.injEq, Prod.exists] at h
    obtain ⟨i, a, h, rfl, rfl⟩ := h
    simpa using ih h
  | case4 =>
    rename_i ih
    simp only [Option.map_eq_some_iff, Prod.mk.injEq, Prod.exists] at h
    obtain ⟨i, a, h, rfl, rfl⟩ := h
    simpa using ih h

theorem length_le_of_mem_ontoFirst {c : Char} {n : Nat} {pieces : List (List Char)}
    (h : ∀ p ∈ pieces, p.length ≤ n) : ∀ p ∈ ontoFirst c pieces, p.length ≤ n + 1 := by
  cases pieces with
  | nil => simp [ontoFirst]
  | cons first rest =>
    simp only [ontoFirst, List.mem_cons, forall_eq_or_imp, List.length_cons] at h ⊢
    exact ⟨by omega, fun p hp => Nat.le_succ_of_le (h.2 p hp)⟩

theorem length_le_of_mem_pieces {depth : Nat} {q : Quoting} {s : List Char}
    {pieces : List (List Char)} (h : pieces? depth q s = some pieces) :
    ∀ p ∈ pieces, p.length ≤ s.length := by
  fun_induction pieces? depth q s generalizing pieces with
  | case1 => cases h; simp
  | case2 => simp at h
  | case3 depth q c rest _ ih =>
    obtain ⟨ps, hp, rfl⟩ := Option.map_eq_some_iff.1 h
    simp only [List.mem_cons, forall_eq_or_imp, List.length_nil, List.length_cons]
    exact ⟨by omega, fun p hm => Nat.le_succ_of_le (ih hp p hm)⟩
  | case4 => simp at h
  | case5 q c rest _ _ depth ih =>
    obtain ⟨ps, hp, rfl⟩ := Option.map_eq_some_iff.1 h
    exact length_le_of_mem_ontoFirst (ih hp)
  | case6 =>
    rename_i ih
    obtain ⟨ps, hp, rfl⟩ := Option.map_eq_some_iff.1 h
    exact length_le_of_mem_ontoFirst (ih hp)

theorem length_le_of_mem_splitArguments {s : List Char} {arguments : List (List Char)}
    (h : splitArguments s = .ok arguments) : ∀ a ∈ arguments, a.length ≤ s.length := by
  simp only [splitArguments] at h
  split at h
  · cases h; simp
  split at h
  · simp at h
  rename_i pieces hp
  split at h
  · simp at h
  cases h
  intro a ha
  obtain ⟨p, hm, rfl⟩ := List.mem_map.1 ha
  exact Nat.le_trans (length_trim_le p)
    (Nat.le_trans (length_le_of_mem_pieces hp p hm) (length_trim_le s))

/-- Takes a call apart into its function and the texts of its arguments. -/
def callParts (s : List Char) : Reading (Builtin × List (List Char)) :=
  let inner := trim s
  match inner.dropWhile (· ≠ '(') with
  | [] => .error (.malformedCall (String.ofList inner))
  | _ :: body =>
    let name := inner.takeWhile (· ≠ '(')
    match untilParenthesis 0 .outside body with
    | none => .error (.unbalanced (String.ofList inner))
    | some (inside, after) =>
      if ¬after.isEmpty then .error (.textAfterCall (String.ofList inner))
      else
        match Builtin.named? (String.ofList name) with
        | none => .error (.unknownFunction (String.ofList name))
        | some function =>
          match splitArguments inside with
          | .error e => .error e
          | .ok arguments => .ok (function, arguments)

theorem length_lt_of_mem_callParts {s : List Char} {function : Builtin}
    {arguments : List (List Char)} (h : callParts s = .ok (function, arguments)) :
    ∀ a ∈ arguments, a.length < s.length := by
  simp only [callParts] at h
  split at h
  · simp at h
  rename_i c body hbody
  split at h
  · simp at h
  rename_i inside after hu
  split at h
  · simp at h
  split at h
  · simp at h
  split at h
  · simp at h
  rename_i args hargs
  cases h
  intro a ha
  have h1 := length_le_of_mem_splitArguments hargs a ha
  have h2 := length_untilParenthesis hu
  have h3 : (c :: body).length ≤ (trim s).length :=
    hbody ▸ (List.dropWhile_sublist _).length_le
  have h4 := length_trim_le s
  simp only [List.length_cons] at h3
  omega

/-- Reads a call, given how to read its arguments. -/
def readCallWith (s : List Char)
    (argument : (a : List Char) → a.length < s.length → Reading Expr) : Reading Expr :=
  match h : callParts s with
  | .error e => .error e
  | .ok (function, arguments) => do
    let args ← arguments.attach.mapM fun ⟨a, ha⟩ =>
      argument a (length_lt_of_mem_callParts h a ha)
    if args.length = function.arity then .ok (.call function args)
    else .error (.wrongArity function args.length)

/-- Reads an expression: a call or a reference. -/
def read (s : List Char) : Reading Expr :=
  if isCall (trim s) then
    readCallWith s fun a _ =>
      match readLiteral? a with
      | some reading => reading.map Expr.literal
      | none => read a
  else (readReference s).map fun (source, segments) => .ref source segments
termination_by s.length

/-- Reads an argument: a literal or an expression. -/
def readArgument (s : List Char) : Reading Expr :=
  match readLiteral? s with
  | some reading => reading.map Expr.literal
  | none => read s

/-- Reads a call, whatever stands before its parenthesis. -/
def readCall (s : List Char) : Reading Expr := readCallWith s fun a _ => readArgument a

/-- Reads all expressions of a template, up to the first that is wrong. -/
def readTemplate (d : Delimiters) (template : List Char) : Reading (List Expr) :=
  (Segments.of d template).holes.mapM fun hole => read hole.inner

end QueryGateway.Expr
