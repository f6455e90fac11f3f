import QueryGateway.Proofs.Expression.Reading

/-!
The arguments of a call that is closed.

The walk to the closing parenthesis and the cut into arguments are two passes over the same text,
one of them without the blanks around it.  What the first passes is balanced
(`balanced_of_untilParenthesis`), blanks at the ends of a balanced text can go (`Balanced.trim`),
and a balanced text is cut into balanced pieces (`Balanced.exists_pieces`).  So the arguments of a
closed call are never unbalanced.
-/

namespace QueryGateway.Expr

open Text

/-! ## Up to the closing parenthesis -/

theorem untilParenthesis_literal {text content : List Char} (hquoted : Quoted text content)
    (depth : Nat) (rest : List Char) :
    untilParenthesis depth .outside ('\'' :: (text ++ rest)) =
      (untilParenthesis depth .outside rest).map fun p => ('\'' :: text ++ p.1, p.2) := by
  rw [pass_untilParenthesis.over_literal hquoted]
  exact congrArg (Option.map · _) (funext fun p => foldr_keep ('\'' :: text) p.1 p.2)

/-- The walk from an open parenthesis to the one that closes it passes a balanced text. -/
theorem balanced_of_untilParenthesis {depth : Nat} {s inside after : List Char}
    (h : untilParenthesis depth .outside s = some (inside, after)) :
    Balanced (fun _ _ => True) depth inside := by
  -- Literals are passed whole, so the induction is on the length of the text.
  induction hlength : s.length using Nat.strongRecOn generalizing depth s inside with
  | ind length ih =>
    cases s with
    | nil => cases h
    | cons c rest =>
      rw [List.length_cons] at hlength
      by_cases hquote : c = '\''
      · subst hquote
        have hpassed : (untilParenthesis depth .inside rest).isSome := by
          rw [← Option.isSome_map, ← pass_untilParenthesis.quote, h]
          rfl
        obtain ⟨text, content, rest, hquoted, rfl⟩ :=
          exists_quoted_of_passed rfl pass_untilParenthesis.inside hpassed
        rw [untilParenthesis_literal hquoted] at h
        obtain ⟨inside', hrest, rfl⟩ := exists_of_map_eq h
        rw [List.length_append] at hlength
        exact .literal hquoted (ih rest.length (by omega) hrest rfl)
      by_cases hopen : c = '('
      · subst hopen
        rw [pass_untilParenthesis.opened] at h
        obtain ⟨inside', hrest, rfl⟩ := exists_of_map_eq h
        exact .opened (ih rest.length (by omega) hrest rfl)
      by_cases hclose : c = ')'
      · subst hclose
        cases depth with
        | zero =>
          obtain ⟨rfl, -⟩ := Prod.mk.inj (Option.some.inj h)
          exact .done
        | succ depth =>
          rw [pass_untilParenthesis.closed] at h
          obtain ⟨inside', hrest, rfl⟩ := exists_of_map_eq h
          exact .closed (ih rest.length (by omega) hrest rfl)
      · have hordinary : c ∉ ['\'', '(', ')'] := by simp [hquote, hopen, hclose]
        rw [pass_untilParenthesis.plain hordinary trivial] at h
        obtain ⟨inside', hrest, rfl⟩ := exists_of_map_eq h
        exact .char hordinary trivial (ih rest.length (by omega) hrest rfl)

/-! ## Blanks around a balanced text -/

section Blanks

variable {plain : Nat → Char → Prop} {depth : Nat} {left s right : List Char}

theorem not_markup_head {c : Char} {rest : List Char} (h : allBlank (c :: rest)) : c ∉ markup :=
  not_markup_of_blank h c List.mem_cons_self

theorem Balanced.behind {c : Char} (hmarkup : c ∉ markup) (h : Balanced plain depth (c :: s)) :
    Balanced plain depth s := by
  cases h with
  | char ordinary allowed rest => exact rest
  | opened rest => exact absurd (by decide) hmarkup
  | closed rest => exact absurd (by decide) hmarkup
  | literal quoted rest => exact absurd (by decide) hmarkup

theorem Balanced.without_left (hleft : allBlank left) (h : Balanced plain depth (left ++ s)) :
    Balanced plain depth s := by
  induction left with
  | nil => exact h
  | cons c rest ih => exact ih (allBlank_cons_iff.mp hleft).2 (h.behind (not_markup_head hleft))

/-- A literal ends in a quote, so it does not reach into blanks. -/
theorem Quoted.exists_of_append_blank {text content rest : List Char} (hquoted : Quoted text content)
    (hright : allBlank right) (h : text ++ rest = s ++ right) :
    ∃ s', s = text ++ s' ∧ rest = s' ++ right := by
  rcases List.append_eq_append_iff.mp h with ⟨s', rfl, rfl⟩ | ⟨blanks, rfl, rfl⟩
  · exact ⟨s', rfl, rfl⟩
  · cases hblanks : blanks.getLast? with
    | none =>
      obtain rfl := List.getLast?_eq_none_iff.mp hblanks
      exact ⟨[], by rw [List.append_nil, List.append_nil], rfl⟩
    | some c =>
      have hlast := hquoted.getLast?
      rw [List.getLast?_append, hblanks] at hlast
      obtain rfl : c = '\'' := Option.some.inj hlast
      have hmem : '\'' ∈ blanks ++ rest := List.mem_append_left rest (List.mem_of_getLast? hblanks)
      exact absurd (by decide) (not_markup_of_blank hright _ hmem)

theorem Balanced.without_right (hright : allBlank right) (h : Balanced plain depth (s ++ right)) :
    Balanced plain depth s := by
  generalize ht : s ++ right = t at h
  induction h generalizing s right with
  | done =>
    obtain ⟨rfl, -⟩ := List.append_eq_nil_iff.mp ht
    exact .done
  | char ordinary allowed _ ih =>
    rcases List.append_eq_cons_iff.mp ht with ⟨rfl, rfl⟩ | ⟨s, rfl, rfl⟩
    · exact ih (allBlank_cons_iff.mp hright).2 (List.nil_append _)
    · exact .char ordinary allowed (ih hright rfl)
  | opened _ ih =>
    rcases List.append_eq_cons_iff.mp ht with ⟨rfl, rfl⟩ | ⟨s, rfl, rfl⟩
    · exact absurd (by decide) (not_markup_head hright)
    · exact .opened (ih hright rfl)
  | closed _ ih =>
    rcases List.append_eq_cons_iff.mp ht with ⟨rfl, rfl⟩ | ⟨s, rfl, rfl⟩
    · exact absurd (by decide) (not_markup_head hright)
    · exact .closed (ih hright rfl)
  | literal quoted _ ih =>
    rcases List.append_eq_cons_iff.mp ht with ⟨rfl, rfl⟩ | ⟨s, rfl, hs⟩
    · exact absurd (by decide) (not_markup_head hright)
    · obtain ⟨s, rfl, rfl⟩ := quoted.exists_of_append_blank hright hs
      exact .literal quoted (ih hright rfl)

theorem Balanced.trim (h : Balanced plain depth s) : Balanced plain depth (trim s) := by
  obtain ⟨left, right, hleft, hright, hs⟩ := exists_padding s
  rw [hs, List.append_assoc] at h
  exact (h.without_left hleft).without_right hright

end Blanks

/-! ## The pieces of a balanced text -/

/-- A balanced text is cut into pieces that are balanced, and hold commas only inside parentheses.
The first of them closes what was open before the text. -/
theorem Balanced.exists_pieces {plain : Nat → Char → Prop} {depth : Nat} {s : List Char}
    (h : Balanced plain depth s) :
    ∃ first others, pieces? depth .outside s = some (first :: others) ∧
      Balanced CommaInside depth first ∧ ∀ piece ∈ others, Balanced CommaInside 0 piece := by
  induction h with
  | done => exact ⟨[], [], rfl, .done, fun _ hpiece => absurd hpiece List.not_mem_nil⟩
  | @char depth c s ordinary allowed _ ih =>
    obtain ⟨first, others, hpieces, hfirst, hothers⟩ := ih
    by_cases hcomma : CommaInside depth c
    · refine ⟨c :: first, others, ?_, .char ordinary hcomma hfirst, hothers⟩
      rw [pass_pieces.plain ordinary hcomma, hpieces]
      rfl
    · obtain ⟨rfl, hdepth⟩ := Classical.not_imp.mp hcomma
      obtain rfl := Nat.eq_zero_of_not_pos hdepth
      refine ⟨[], first :: others, ?_, .done, List.forall_mem_cons.mpr ⟨hfirst, hothers⟩⟩
      rw [pieces?_separated, hpieces]
      rfl
  | opened _ ih =>
    obtain ⟨first, others, hpieces, hfirst, hothers⟩ := ih
    refine ⟨'(' :: first, others, ?_, .opened hfirst, hothers⟩
    rw [pass_pieces.opened, hpieces]
    rfl
  | closed _ ih =>
    obtain ⟨first, others, hpieces, hfirst, hothers⟩ := ih
    refine ⟨')' :: first, others, ?_, .closed hfirst, hothers⟩
    rw [pass_pieces.closed, hpieces]
    rfl
  | @literal depth text content s quoted _ ih =>
    obtain ⟨first, others, hpieces, hfirst, hothers⟩ := ih
    refine ⟨'\'' :: (text ++ first), others, ?_, .literal quoted hfirst, hothers⟩
    rw [pass_pieces.over_literal quoted, hpieces, Option.map_some, foldr_ontoFirst]
    rfl

/-- The arguments of a call that ends with the parenthesis that closes its first one.  The text
between the two is never unbalanced: it is cut at its commas into pieces that are balanced and
close their literals, and only an argument without a text is refused. -/
theorem splitArguments_of_closed {text body inside : List Char}
    (hopens : text.dropWhile (· ≠ '(') = '(' :: body)
    (hcloses : untilParenthesis 0 .outside body = some (inside, [])) :
    text = text.takeWhile (· ≠ '(') ++ '(' :: (inside ++ [')']) ∧
      ∃ pieces, List.intercalate [','] pieces = trim inside ∧
        (∀ piece ∈ pieces, Balanced CommaInside 0 piece ∧ Balanced CommaInside 0 (trim piece)) ∧
        splitArguments inside =
          if (pieces.map trim).any List.isEmpty then
            .error (.emptyArgument (String.ofList (trim inside)))
          else .ok (pieces.map trim) := by
  constructor
  · rw [← eq_of_untilParenthesis hcloses, ← hopens, List.takeWhile_append_dropWhile]
  · by_cases hempty : trim inside = []
    · refine ⟨[], hempty.symm, fun _ hpiece => absurd hpiece List.not_mem_nil, ?_⟩
      rw [splitArguments, hempty]
      rfl
    · have hbalanced := (balanced_of_untilParenthesis hcloses).trim
      obtain ⟨first, others, hpieces, hfirst, hothers⟩ := hbalanced.exists_pieces
      have hall : ∀ piece ∈ first :: others, Balanced CommaInside 0 piece :=
        List.forall_mem_cons.mpr ⟨hfirst, hothers⟩
      refine ⟨first :: others, (intercalate_of_pieces? hpieces).2,
        fun piece hpiece => ⟨hall piece hpiece, (hall piece hpiece).trim⟩, ?_⟩
      simp only [splitArguments, List.isEmpty_eq_false_iff.mpr hempty, hpieces,
        Bool.false_eq_true, if_false]

/-- A parenthesis, a comma and an escaped quote in a literal, and a call among the arguments. -/
theorem splitArguments_of_closed_literal :
    let body := "'),\\'', g(a, 'b') , c)".toList
    let inside := "'),\\'', g(a, 'b') , c".toList
    "f('),\\'', g(a, 'b') , c)".toList.dropWhile (· ≠ '(') = '(' :: body ∧
      untilParenthesis 0 .outside body = some (inside, []) ∧
      splitArguments inside = .ok ["'),\\''".toList, "g(a, 'b')".toList, "c".toList] ∧
      ∃ pieces, List.intercalate [','] pieces = inside ∧
        ∀ piece ∈ pieces, Balanced CommaInside 0 piece := by
  intro body inside
  have hopens : "f('),\\'', g(a, 'b') , c)".toList.dropWhile (· ≠ '(') = '(' :: body := rfl
  have hcloses : untilParenthesis 0 .outside body = some (inside, []) := rfl
  obtain ⟨-, pieces, hjoin, hbalanced, -⟩ := splitArguments_of_closed hopens hcloses
  exact ⟨hopens, hcloses, rfl, pieces, hjoin, fun piece hpiece => (hbalanced piece hpiece).1⟩

end QueryGateway.Expr
