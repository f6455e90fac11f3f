import QueryGateway.Proofs.Expression.Balance
import QueryGateway.Proofs.Expression.Segments
import QueryGateway.Proofs.Text.Split

/-!
The closing delimiter of an expression.

`Closes` says where the delimiters that are open at the start of a text are closed: nested
delimiters are counted, and literals are passed over whole.  Outside of literals a text starts in
one of four ways (`Start`), and the walk to the closing delimiter has one equation for each of
them.  From these it finds the delimiter exactly where there is one (`closes_iff`).
-/

namespace QueryGateway.Segments

open Text QueryGateway.Expr

/-- No delimiter stands at the start of a text. -/
def Undelimited (opening closing s : List Char) : Prop := ¬opening <+: s ∧ ¬closing <+: s

/-- A text after an opening delimiter closes `depth` expressions nested in that one, and then the
one itself; `after` stands behind its closing delimiter.  Delimiters on the way are counted, an
opening one before a closing one, and literals are passed over whole. -/
inductive Closes (opening closing : List Char) : (depth : Nat) → (s after : List Char) → Prop
  | closed {after : List Char} (apart : ¬opening <+: closing ++ after) :
    Closes opening closing 0 (closing ++ after) after
  | opened {depth : Nat} {s after : List Char} (rest : Closes opening closing (depth + 1) s after) :
    Closes opening closing depth (opening ++ s) after
  | nested {depth : Nat} {s after : List Char} (apart : ¬opening <+: closing ++ s)
    (rest : Closes opening closing depth s after) :
    Closes opening closing (depth + 1) (closing ++ s) after
  | literal {depth : Nat} {text content s after : List Char} (quoted : Quoted text content)
    (apart : Undelimited opening closing ('\'' :: (text ++ s)))
    (rest : Closes opening closing depth s after) :
    Closes opening closing depth ('\'' :: (text ++ s)) after
  | char {depth : Nat} {c : Char} {s after : List Char} (ordinary : c ≠ '\'')
    (apart : Undelimited opening closing (c :: s)) (rest : Closes opening closing depth s after) :
    Closes opening closing depth (c :: s) after

/-- How a text starts outside of literals. -/
inductive Start (opening closing : List Char) : List Char → Prop
  | finished : Start opening closing []
  | opened (rest : List Char) : Start opening closing (opening ++ rest)
  | closed {rest : List Char} (apart : ¬opening <+: closing ++ rest) :
    Start opening closing (closing ++ rest)
  | char {c : Char} {rest : List Char} (apart : Undelimited opening closing (c :: rest)) :
    Start opening closing (c :: rest)

theorem start (opening closing s : List Char) : Start opening closing s := by
  by_cases hopen : opening <+: s
  · obtain ⟨rest, rfl⟩ := hopen
    exact .opened rest
  by_cases hclose : closing <+: s
  · obtain ⟨rest, rfl⟩ := hclose
    exact .closed hopen
  cases s with
  | nil => exact .finished
  | cons c rest => exact .char ⟨hopen, hclose⟩

/-! ## The walk to the closing delimiter -/

variable {opening closing : List Char}

theorem untilClose_skip (word : List Char) (depth : Nat) (q : Quoting) (s : List Char) :
    untilClose opening closing word.length depth q (word ++ s) =
      (untilClose opening closing 0 depth q s).map fun p => (word ++ p.1, p.2) := by
  induction word with
  | nil => exact Option.map_id'.symm
  | cons c word ih =>
    rw [List.cons_append, List.length_cons, untilClose, ih, Option.map_map]
    rfl

theorem untilClose_opened (hopening : opening ≠ []) (depth : Nat) (rest : List Char) :
    untilClose opening closing 0 depth .outside (opening ++ rest) =
      (untilClose opening closing 0 (depth + 1) .outside rest).map fun p =>
        (opening ++ p.1, p.2) := by
  obtain ⟨c, word, rfl⟩ := List.exists_cons_of_ne_nil hopening
  have hstarts : startsWith (c :: word) (c :: (word ++ rest)) :=
    startsWith_iff.mpr (List.prefix_append (c :: word) rest)
  rw [List.cons_append, untilClose.eq_def]
  simp only [hstarts, and_self, if_true]
  rw [List.length_cons, Nat.add_sub_cancel, untilClose_skip, Option.map_map]
  rfl

theorem untilClose_closed (hclosing : closing ≠ []) {rest : List Char}
    (apart : ¬opening <+: closing ++ rest) :
    untilClose opening closing 0 0 .outside (closing ++ rest) = some ([], rest) := by
  obtain ⟨c, word, rfl⟩ := List.exists_cons_of_ne_nil hclosing
  have hstarts : startsWith (c :: word) (c :: (word ++ rest)) :=
    startsWith_iff.mpr (List.prefix_append (c :: word) rest)
  rw [List.cons_append, untilClose, if_neg fun h => apart (startsWith_iff.mp h.2),
    if_pos ⟨rfl, hstarts⟩]
  simp

theorem untilClose_nested (hclosing : closing ≠ []) (depth : Nat) {rest : List Char}
    (apart : ¬opening <+: closing ++ rest) :
    untilClose opening closing 0 (depth + 1) .outside (closing ++ rest) =
      (untilClose opening closing 0 depth .outside rest).map fun p => (closing ++ p.1, p.2) := by
  obtain ⟨c, word, rfl⟩ := List.exists_cons_of_ne_nil hclosing
  have hstarts : startsWith (c :: word) (c :: (word ++ rest)) :=
    startsWith_iff.mpr (List.prefix_append (c :: word) rest)
  rw [List.cons_append, untilClose, if_neg fun h => apart (startsWith_iff.mp h.2),
    if_pos ⟨rfl, hstarts⟩, List.length_cons, Nat.add_sub_cancel, untilClose_skip, Option.map_map]
  rfl

theorem untilClose_char (depth : Nat) {c : Char} {rest : List Char}
    (apart : Undelimited opening closing (c :: rest)) :
    untilClose opening closing 0 depth .outside (c :: rest) =
      (untilClose opening closing 0 depth (Quoting.outside.step c rest.head?) rest).map fun p =>
        (c :: p.1, p.2) := by
  rw [untilClose.eq_def]
  exact (if_neg fun h => apart.1 (startsWith_iff.mp h.2)).trans
    (if_neg fun h => apart.2 (startsWith_iff.mp h.2))

theorem untilClose_inside (depth : Nat) {q : Quoting} {c : Char} {rest : List Char}
    (hq : q ≠ .outside) :
    untilClose opening closing 0 depth q (c :: rest) =
      (untilClose opening closing 0 depth (q.step c rest.head?) rest).map fun p =>
        (c :: p.1, p.2) := by
  rw [untilClose.eq_def]
  exact (if_neg fun h => hq h.1).trans (if_neg fun h => hq h.1)

theorem untilClose_escaped (depth : Nat) (rest : List Char) :
    untilClose opening closing 0 depth .inside ('\\' :: '\'' :: rest) =
      (untilClose opening closing 0 depth .inside rest).map fun p =>
        ('\\' :: '\'' :: p.1, p.2) := by
  rw [untilClose_inside depth (by decide)]
  show (untilClose opening closing 0 depth .escaped ('\'' :: rest)).map _ = _
  rw [untilClose_inside depth (by decide), Option.map_map]
  rfl

theorem untilClose_literal (depth : Nat) {text content : List Char} (hquoted : Quoted text content)
    {rest : List Char} (apart : Undelimited opening closing ('\'' :: (text ++ rest))) :
    untilClose opening closing 0 depth .outside ('\'' :: (text ++ rest)) =
      (untilClose opening closing 0 depth .outside rest).map fun p =>
        ('\'' :: (text ++ p.1), p.2) := by
  have hpassed : untilClose opening closing 0 depth .inside (text ++ rest) =
      (untilClose opening closing 0 depth .outside rest).map fun p =>
        text.foldr (fun c p => (c :: p.1, p.2)) p :=
    hquoted.passed (untilClose_inside depth) rest
  rw [untilClose_char depth apart]
  show (untilClose opening closing 0 depth .inside (text ++ rest)).map _ = _
  rw [hpassed, Option.map_map]
  exact congrArg (Option.map · _) (funext fun p =>
    congrArg (fun p => ('\'' :: p.1, p.2)) (foldr_keep text p.1 p.2))

/-! ## What the walk finds -/

theorem Closes.exists_untilClose (hopening : opening ≠ []) (hclosing : closing ≠ []) {depth : Nat}
    {s after : List Char} (h : Closes opening closing depth s after) :
    ∃ inner, untilClose opening closing 0 depth .outside s = some (inner, after) := by
  induction h with
  | closed apart => exact ⟨[], untilClose_closed hclosing apart⟩
  | opened _ ih =>
    obtain ⟨inner, ih⟩ := ih
    exact ⟨opening ++ inner, by rw [untilClose_opened hopening, ih]; rfl⟩
  | nested apart _ ih =>
    obtain ⟨inner, ih⟩ := ih
    exact ⟨closing ++ inner, by rw [untilClose_nested hclosing _ apart, ih]; rfl⟩
  | literal quoted apart _ ih =>
    obtain ⟨inner, ih⟩ := ih
    exact ⟨_, by rw [untilClose_literal _ quoted apart, ih]; rfl⟩
  | char ordinary apart _ ih =>
    obtain ⟨inner, ih⟩ := ih
    exact ⟨_, by rw [untilClose_char _ apart, Quoting.step, if_neg ordinary, ih]; rfl⟩

theorem closes_of_untilClose (hopening : opening ≠ []) (hclosing : closing ≠ []) {depth : Nat}
    {s inner after : List Char}
    (h : untilClose opening closing 0 depth .outside s = some (inner, after)) :
    Closes opening closing depth s after := by
  -- Literals and delimiters are passed whole, so the induction is on the length of the text.
  induction hlength : s.length using Nat.strongRecOn generalizing depth s inner with
  | ind length ih =>
    have hopeningLength := List.length_pos_iff.mpr hopening
    have hclosingLength := List.length_pos_iff.mpr hclosing
    cases start opening closing s with
    | finished => cases h
    | opened rest =>
      rw [untilClose_opened hopening] at h
      obtain ⟨inner', h, -⟩ := exists_of_map_eq h
      rw [List.length_append] at hlength
      exact .opened (ih rest.length (by omega) h rfl)
    | @closed rest apart =>
      cases depth with
      | zero =>
        rw [untilClose_closed hclosing apart] at h
        obtain ⟨-, rfl⟩ := Prod.mk.inj (Option.some.inj h)
        exact .closed apart
      | succ depth =>
        rw [untilClose_nested hclosing depth apart] at h
        obtain ⟨inner', h, -⟩ := exists_of_map_eq h
        rw [List.length_append] at hlength
        exact .nested apart (ih rest.length (by omega) h rfl)
    | @char c rest apart =>
      by_cases hquote : c = '\''
      · subst hquote
        have hinside : (untilClose opening closing 0 depth .inside rest).isSome := by
          rw [untilClose_char depth apart] at h
          obtain ⟨inner', h, -⟩ := exists_of_map_eq h
          exact Option.isSome_of_eq_some h
        obtain ⟨text, content, rest, hquoted, rfl⟩ :=
          exists_quoted_of_passed rfl (untilClose_inside depth) hinside
        rw [untilClose_literal depth hquoted apart] at h
        obtain ⟨inner', h, -⟩ := exists_of_map_eq (f := fun s => '\'' :: (text ++ s)) h
        rw [List.length_cons, List.length_append] at hlength
        exact .literal hquoted apart (ih rest.length (by omega) h rfl)
      · rw [untilClose_char depth apart, Quoting.step, if_neg hquote] at h
        obtain ⟨inner', h, -⟩ := exists_of_map_eq h
        rw [List.length_cons] at hlength
        exact .char hquote apart (ih rest.length (by omega) h rfl)

/-- The walk finds the closing delimiter exactly where the expression is closed. -/
theorem closes_iff (hopening : opening ≠ []) (hclosing : closing ≠ []) {depth : Nat}
    {s after : List Char} :
    Closes opening closing depth s after ↔
      ∃ inner, untilClose opening closing 0 depth .outside s = some (inner, after) :=
  ⟨Closes.exists_untilClose hopening hclosing,
    fun ⟨_, h⟩ => closes_of_untilClose hopening hclosing h⟩

end QueryGateway.Segments
