import QueryGateway.Proofs.Expression.Splicing
import QueryGateway.Sql.Statement

/-!
Reading the placeholders of a statement back.

An engine finds placeholders in the text alone: a dollar sign and the digits behind it, as many as
there are.  So digits that a template has directly behind an expression join its placeholder, and
`$1` becomes `$15`.  Otherwise the engine finds the placeholders that were written, one for each
value and in order (`ofTemplate_reads_back`).
-/

namespace QueryGateway

namespace Segments

/-- The plain texts around expressions: the one in front of the first, and those behind each. -/
def literals (s : Segments) : List (List Char) := s.holes.map Hole.before ++ [s.tail]

/-- The plain texts behind expressions, each up to the next expression or the end. -/
def behind (s : Segments) : List (List Char) := s.literals.tail

theorem behind_cons (hole : Hole) (rest : List Hole) (tail : List Char) :
    behind { holes := hole :: rest, tail } = literals { holes := rest, tail } := rfl

theorem literals_eq_cons (s : Segments) : ∃ first, s.literals = first :: s.behind := by
  obtain ⟨holes, tail⟩ := s
  cases holes with
  | nil => exact ⟨tail, rfl⟩
  | cons hole rest => exact ⟨hole.before, rfl⟩

theorem length_behind (s : Segments) : s.behind.length = s.holes.length := by
  rw [behind, literals, List.length_tail, List.length_append, List.length_map]
  rfl

end Segments

namespace Sql

/-- The placeholders that an engine with numbered ones finds in a text: the dollar signs with the
digits behind them. -/
def readPlaceholders : List Char → List String
  | [] => []
  | c :: rest =>
    if c = '$' ∧ rest.takeWhile Char.isDigit ≠ [] then
      String.ofList (c :: rest.takeWhile Char.isDigit) :: readPlaceholders rest
    else readPlaceholders rest

/-- The placeholder at an index from zero, with the digits that the text behind it starts with. -/
def joinedPlaceholder (i : Nat) (text : List Char) : String :=
  Dialect.numbered.placeholder i ++ String.ofList (text.takeWhile Char.isDigit)

theorem toList_placeholder (i : Nat) :
    (Dialect.numbered.placeholder i).toList = '$' :: Nat.toDigits 10 (i + 1) := by
  rw [Dialect.placeholder]
  simp only [String.toList_append]
  exact congrArg ('$' :: ·) Nat.toList_repr

theorem joinedPlaceholder_eq (i : Nat) (text : List Char) : joinedPlaceholder i text =
    String.ofList ('$' :: (Nat.toDigits 10 (i + 1) ++ text.takeWhile Char.isDigit)) := by
  apply String.toList_injective
  rw [joinedPlaceholder, String.toList_append, toList_placeholder, String.toList_ofList,
    String.toList_ofList, List.cons_append]

theorem joinedPlaceholder_eq_iff {i : Nat} {text : List Char} :
    joinedPlaceholder i text = Dialect.numbered.placeholder i ↔
      text.takeWhile Char.isDigit = [] := by
  rw [← String.toList_inj, joinedPlaceholder, String.toList_append, String.toList_ofList,
    List.append_right_eq_self]

theorem readPlaceholders_append {s : List Char} (h : '$' ∉ s) (t : List Char) :
    readPlaceholders (s ++ t) = readPlaceholders t := by
  induction s with
  | nil => rfl
  | cons c rest ih =>
    have hc : c ≠ '$' := (List.ne_of_not_mem_cons h).symm
    rw [List.cons_append, readPlaceholders, if_neg fun hstarts => hc hstarts.1]
    exact ih (List.not_mem_of_not_mem_cons h)

theorem readPlaceholders_eq_nil {s : List Char} (h : '$' ∉ s) : readPlaceholders s = [] := by
  have happend := readPlaceholders_append h []
  rwa [List.append_nil] at happend

/-- A placeholder in a text takes the digits that follow it. -/
theorem readPlaceholders_placeholder (i : Nat) (text : List Char) :
    readPlaceholders ((Dialect.numbered.placeholder i).toList ++ text) =
      joinedPlaceholder i text :: readPlaceholders text := by
  have hdigits : ∀ c ∈ Nat.toDigits 10 (i + 1), c.isDigit = true := fun c hc =>
    Nat.isDigit_of_mem_toDigits (by decide) (by decide) hc
  have hdollar : '$' ∉ Nat.toDigits 10 (i + 1) := fun hmem => by
    have := hdigits '$' hmem
    revert this
    decide
  have htake : (Nat.toDigits 10 (i + 1) ++ text).takeWhile Char.isDigit =
      Nat.toDigits 10 (i + 1) ++ text.takeWhile Char.isDigit :=
    List.takeWhile_append_of_pos hdigits
  have hne : Nat.toDigits 10 (i + 1) ++ text.takeWhile Char.isDigit ≠ [] :=
    List.append_ne_nil_of_left_ne_nil Nat.toDigits_ne_nil _
  rw [toList_placeholder, List.cons_append, readPlaceholders, htake, if_pos ⟨rfl, hne⟩,
    readPlaceholders_append hdollar, joinedPlaceholder_eq]

theorem takeWhile_append_dollar (s t : List Char) :
    (s ++ '$' :: t).takeWhile Char.isDigit = s.takeWhile Char.isDigit := by
  have hdollar : ('$' :: t).takeWhile Char.isDigit = [] :=
    List.takeWhile_cons_of_neg (by decide)
  rw [List.takeWhile_append, hdollar, List.append_nil]
  split
  · rename_i hlength
    exact ((List.takeWhile_prefix _).eq_of_length hlength).symm
  · rfl

/-- Digits at the start of a text with placeholders are digits at the start of its first plain
text. -/
theorem takeWhile_placeholders {i : Nat} {holes : List Hole} {tail first : List Char}
    {others : List (List Char)}
    (h : Segments.literals { holes, tail } = first :: others) :
    (placeholders .numbered i holes ++ tail).takeWhile Char.isDigit =
      first.takeWhile Char.isDigit := by
  cases holes with
  | nil =>
    obtain ⟨rfl, -⟩ := List.cons.inj h
    rfl
  | cons hole rest =>
    obtain ⟨rfl, -⟩ := List.cons.inj h
    rw [placeholders, toList_placeholder, List.append_assoc, List.append_assoc, List.cons_append]
    exact takeWhile_append_dollar _ _

/-- In a text with placeholders an engine finds each of them, with the digits behind it. -/
theorem readPlaceholders_placeholders (i : Nat) {s : Segments}
    (h : ∀ text ∈ s.literals, '$' ∉ text) :
    readPlaceholders (placeholders .numbered i s.holes ++ s.tail) =
      List.zipWith joinedPlaceholder (List.range' i s.holes.length) s.behind := by
  obtain ⟨holes, tail⟩ := s
  induction holes generalizing i with
  | nil => exact readPlaceholders_eq_nil (h tail (List.mem_singleton.mpr rfl))
  | cons hole rest ih =>
    obtain ⟨hbefore, hrest⟩ := List.forall_mem_cons.mp h
    obtain ⟨first, hliterals⟩ := Segments.literals_eq_cons { holes := rest, tail }
    have hjoined : ∀ text : List Char, text.takeWhile Char.isDigit = first.takeWhile Char.isDigit →
        joinedPlaceholder i text = joinedPlaceholder i first := by
      intro text htext
      rw [joinedPlaceholder, htext, joinedPlaceholder]
    rw [placeholders, List.append_assoc, List.append_assoc, readPlaceholders_append hbefore,
      readPlaceholders_placeholder, hjoined _ (takeWhile_placeholders hliterals), ih _ hrest,
      Segments.behind_cons, hliterals, List.length_cons, List.range'_succ,
      List.zipWith_cons_cons]

theorem zipWith_joinedPlaceholder_eq_iff (i : Nat) (texts : List (List Char)) :
    List.zipWith joinedPlaceholder (List.range' i texts.length) texts =
        (List.range' i texts.length).map Dialect.numbered.placeholder ↔
      ∀ text ∈ texts, text.takeWhile Char.isDigit = [] := by
  induction texts generalizing i with
  | nil => exact iff_of_true rfl fun text htext => absurd htext List.not_mem_nil
  | cons text rest ih =>
    rw [List.length_cons, List.range'_succ, List.zipWith_cons_cons, List.map_cons,
      List.cons.injEq, ih, joinedPlaceholder_eq_iff, List.forall_mem_cons]

namespace Statement

/-- In a statement with numbered placeholders, whose template has no dollar sign in its plain texts,
an engine finds one placeholder for each value, which takes the digits behind its expression.  So it
finds the numbers from one on, in order, exactly if no expression has a digit directly behind it. -/
theorem ofTemplate_reads_back {d : Delimiters} {ctx : Context} {template : String}
    {supply supply' : Supply} {statement : Statement}
    (hliterals : ∀ text ∈ (Segments.of d template.toList).literals, '$' ∉ text)
    (h : ofTemplate d .numbered ctx template supply = .ok (statement, supply')) :
    statement.values.length = (d.references template).length ∧
      readPlaceholders statement.text.toList =
        List.zipWith joinedPlaceholder (List.range statement.values.length)
          (Segments.of d template.toList).behind ∧
      (readPlaceholders statement.text.toList =
          (List.range statement.values.length).map (fun i => s!"${i + 1}") ↔
        ∀ text ∈ (Segments.of d template.toList).behind, text.takeWhile Char.isDigit = []) := by
  obtain ⟨exprs, hread, hstatement⟩ := exists_of_map_eq_ok h
  obtain ⟨values, drawn, hall, hvalues, -⟩ := Expr.evalAll_each ctx exprs supply
  rw [hall] at hstatement
  obtain ⟨rfl, -⟩ := Prod.mk.inj hstatement
  have hholes : (Segments.of d template.toList).holes.length = values.length := by
    rw [hvalues, (mapM_eq_ok_iff.mp hread).length_eq]
  have hbehind : (Segments.of d template.toList).behind.length = values.length := by
    rw [Segments.length_behind, hholes]
  have hfound := readPlaceholders_placeholders 0 hliterals
  rw [hholes, ← List.range_eq_range'] at hfound
  have hexact := zipWith_joinedPlaceholder_eq_iff 0 (Segments.of d template.toList).behind
  rw [hbehind, ← List.range_eq_range', ← hfound] at hexact
  have hlength : (d.references template).length = values.length :=
    (Segments.length_referencesFrom d 0 _).trans hholes
  rw [String.toList_ofList]
  exact ⟨hlength.symm, hfound, hexact⟩

/-- The digit behind an expression makes its placeholder the fifteenth. -/
theorem ofTemplate_reads_back_digit :
    let template := "$\x7b\x7b path.a \x7d\x7d5"
    let ctx : Context := { path := .ofList [("a", "x")] }
    let supply : Supply := ⟨fun _ => ⟨0⟩, fun _ => "", 0⟩
    (∀ text ∈ (Segments.of .standard template.toList).literals, '$' ∉ text) ∧
      ∃ statement supply',
        ofTemplate .standard .numbered ctx template supply = .ok (statement, supply') ∧
        statement.values.length = 1 ∧ readPlaceholders statement.text.toList = ["$15"] := by
  intro template ctx supply
  have hsegments : Segments.of .standard template.toList =
      { holes := [{ before := [], inner := [' ', 'p', 'a', 't', 'h', '.', 'a', ' '] }],
        tail := ['5'] } := by decide +kernel
  have hliterals : ∀ text ∈ (Segments.of .standard template.toList).literals, '$' ∉ text := by
    rw [hsegments]
    decide
  cases hmade : ofTemplate .standard .numbered ctx template supply with
  | error e =>
    have hisOk : (ofTemplate .standard .numbered ctx template supply).isOk = true := by
      decide +kernel
    rw [hmade] at hisOk
    cases hisOk
  | ok made =>
    obtain ⟨hlength, hfound, -⟩ := ofTemplate_reads_back hliterals hmade
    have hone : made.1.values.length = 1 := by
      rw [hlength]
      decide +kernel
    rw [hone, hsegments] at hfound
    exact ⟨hliterals, made.1, made.2, rfl, hone, hfound.trans (by decide +kernel)⟩

end Statement
end Sql
end QueryGateway
