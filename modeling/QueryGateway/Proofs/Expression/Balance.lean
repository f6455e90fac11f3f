import QueryGateway.Proofs.Expression.Grammar

/-!
Balanced texts.

In a balanced text every literal and every parenthesis is closed.  All passes over the text of
an expression go over a balanced text in the same way (`Pass.over_balanced`): they keep its
characters and are afterwards where they were before it, whatever stands in its literals.
-/

namespace QueryGateway.Expr

/-- A text that closes its literals, its own parentheses and `depth` parentheses before it.
`plain` says which characters can stand outside literals, at each depth. -/
inductive Balanced (plain : Nat → Char → Prop) : (depth : Nat) → List Char → Prop
  | done : Balanced plain 0 []
  | char {depth : Nat} {c : Char} {s : List Char} (ordinary : c ∉ ['\'', '(', ')'])
    (allowed : plain depth c) (rest : Balanced plain depth s) : Balanced plain depth (c :: s)
  | opened {depth : Nat} {s : List Char} (rest : Balanced plain (depth + 1) s) :
    Balanced plain depth ('(' :: s)
  | closed {depth : Nat} {s : List Char} (rest : Balanced plain depth s) :
    Balanced plain (depth + 1) (')' :: s)
  | literal {depth : Nat} {text content s : List Char} (quoted : Quoted text content)
    (rest : Balanced plain depth s) : Balanced plain depth ('\'' :: (text ++ s))

namespace Balanced

variable {plain : Nat → Char → Prop} {depth : Nat} {s t : List Char}

theorem ordinary_append (hordinary : ∀ c ∈ s, c ∉ ['\'', '(', ')'])
    (hallowed : ∀ c ∈ s, plain depth c) (h : Balanced plain depth t) :
    Balanced plain depth (s ++ t) := by
  induction s with
  | nil => exact h
  | cons c rest ih =>
    exact .char (hordinary c List.mem_cons_self) (hallowed c List.mem_cons_self)
      (ih (fun d hd => hordinary d (List.mem_cons_of_mem _ hd))
        (fun d hd => hallowed d (List.mem_cons_of_mem _ hd)))

/-- A balanced text can stand in another one, at any depth where its characters can. -/
theorem append (hs : Balanced plain depth s) {below : Nat} (ht : Balanced plain below t)
    (hmore : ∀ depth c, plain depth c → plain (depth + below) c) :
    Balanced plain (depth + below) (s ++ t) := by
  induction hs with
  | done => simpa using ht
  | char ordinary allowed _ ih => exact .char ordinary (hmore _ _ allowed) ih
  | opened _ ih =>
    rw [Nat.add_right_comm] at ih
    exact .opened ih
  | closed _ ih =>
    rw [Nat.add_right_comm]
    exact .closed ih
  | literal quoted _ ih =>
    rw [List.cons_append, List.append_assoc]
    exact .literal quoted ih

end Balanced

section Literals

variable {β : Type} {pass : Quoting → List Char → Option β} {keep : Char → β → β}

/-- A pass that keeps the characters of literals goes over any literal. -/
theorem Quoted.passed (hpass : ∀ {q c rest}, q ≠ .outside →
      pass q (c :: rest) = (pass (q.step c rest.head?) rest).map (keep c))
    {text content : List Char} (hquoted : Quoted text content) (after : List Char) :
    pass .inside (text ++ after) = (pass .outside after).map fun b => text.foldr keep b := by
  induction hquoted with
  | closed => exact hpass (by decide)
  | escaped rest ih =>
    rw [List.cons_append, hpass (by decide)]
    show (pass .escaped ('\'' :: (_ ++ after))).map _ = _
    rw [hpass (by decide)]
    show ((pass .inside (_ ++ after)).map _).map _ = _
    rw [ih, Option.map_map, Option.map_map]
    rfl
  | plain quote escape rest ih =>
    rw [List.cons_append, hpass (by decide), rest.head?_append, Quoted.step quote escape, ih,
      Option.map_map]
    rfl

/-- Such a pass comes to an end only where the literal is closed. -/
theorem exists_quoted_of_passed (hnil : pass .inside [] = none)
    (hpass : ∀ {q c rest}, q ≠ .outside →
      pass q (c :: rest) = (pass (q.step c rest.head?) rest).map (keep c))
    {s : List Char} (h : (pass .inside s).isSome) :
    ∃ text content rest, Quoted text content ∧ s = text ++ rest := by
  induction hlength : s.length using Nat.strongRecOn generalizing s with
  | ind length ih =>
    cases s with
    | nil =>
      rw [hnil] at h
      cases h
    | cons c rest =>
      rw [hpass (by decide), Option.isSome_map] at h
      rw [List.length_cons] at hlength
      by_cases hescape : c = '\\' ∧ rest.head? = some '\''
      · obtain ⟨rfl, hquote⟩ := hescape
        obtain ⟨rest, rfl⟩ := List.head?_eq_some_iff.mp hquote
        change (pass .escaped ('\'' :: rest)).isSome at h
        rw [hpass (by decide), Option.isSome_map] at h
        rw [List.length_cons] at hlength
        obtain ⟨text, content, after, hquoted, rfl⟩ := ih _ (by omega) h rfl
        exact ⟨_, _, after, .escaped hquoted, rfl⟩
      by_cases hquote : c = '\''
      · subst hquote
        exact ⟨_, _, rest, .closed, rfl⟩
      · rw [Quoted.step hquote hescape] at h
        obtain ⟨text, content, after, hquoted, rfl⟩ := ih _ (by omega) h rfl
        rw [hquoted.head?_append] at hescape
        exact ⟨_, _, after, .plain hquote hescape hquoted, rfl⟩

end Literals

/-- A pass that goes over a text character by character, tracks literals and the depth of
parentheses, and keeps every character. -/
structure Pass (plain : Nat → Char → Prop) {β : Type}
    (pass : Nat → Quoting → List Char → Option β) (keep : Char → β → β) : Prop where
  inside : ∀ {depth q c rest}, q ≠ .outside →
    pass depth q (c :: rest) = (pass depth (q.step c rest.head?) rest).map (keep c)
  quote : ∀ {depth rest},
    pass depth .outside ('\'' :: rest) = (pass depth .inside rest).map (keep '\'')
  plain : ∀ {depth c rest}, c ∉ ['\'', '(', ')'] → plain depth c →
    pass depth .outside (c :: rest) = (pass depth .outside rest).map (keep c)
  opened : ∀ {depth rest},
    pass depth .outside ('(' :: rest) = (pass (depth + 1) .outside rest).map (keep '(')
  closed : ∀ {depth rest},
    pass (depth + 1) .outside (')' :: rest) = (pass depth .outside rest).map (keep ')')

theorem foldr_keep (s inside after : List Char) :
    s.foldr (fun c p => (c :: p.1, p.2)) (inside, after) = (s ++ inside, after) := by
  induction s with
  | nil => rfl
  | cons c rest ih =>
    rw [List.foldr_cons, ih]
    rfl

/-- What a pass that keeps a word has found behind it. -/
theorem exists_of_map_eq {found : Option (List Char × List Char)} {f : List Char → List Char}
    {inside after : List Char} (h : found.map (fun p => (f p.1, p.2)) = some (inside, after)) :
    ∃ inside', found = some (inside', after) ∧ inside = f inside' := by
  obtain ⟨p, hfound, hp⟩ := Option.map_eq_some_iff.mp h
  obtain ⟨hinside, rfl⟩ := Prod.mk.inj hp
  exact ⟨p.1, hfound, hinside.symm⟩

namespace Pass

variable {plain : Nat → Char → Prop} {β : Type} {pass : Nat → Quoting → List Char → Option β}
  {keep : Char → β → β}

theorem over_quoted (h : Pass plain pass keep) {text content : List Char}
    (hquoted : Quoted text content) (depth : Nat) (after : List Char) :
    pass depth .inside (text ++ after) =
      (pass depth .outside after).map fun b => text.foldr keep b :=
  hquoted.passed h.inside after

theorem over_literal (h : Pass plain pass keep) {text content : List Char}
    (hquoted : Quoted text content) (depth : Nat) (after : List Char) :
    pass depth .outside ('\'' :: (text ++ after)) =
      (pass depth .outside after).map fun b => ('\'' :: text).foldr keep b := by
  rw [h.quote, h.over_quoted hquoted, Option.map_map]
  rfl

/-- A pass goes over a balanced text and keeps it. -/
theorem over_balanced (h : Pass plain pass keep) {depth : Nat} {s : List Char}
    (hs : Balanced plain depth s) (after : List Char) :
    pass depth .outside (s ++ after) =
      (pass 0 .outside after).map fun b => s.foldr keep b := by
  induction hs with
  | done => exact Option.map_id'.symm
  | char ordinary allowed _ ih =>
    rw [List.cons_append, h.plain ordinary allowed, ih, Option.map_map]
    rfl
  | opened _ ih =>
    rw [List.cons_append, h.opened, ih, Option.map_map]
    rfl
  | closed _ ih =>
    rw [List.cons_append, h.closed, ih, Option.map_map]
    rfl
  | literal quoted _ ih =>
    rw [List.cons_append, List.append_assoc, h.over_literal quoted, ih, Option.map_map]
    simp only [Function.comp_def, List.foldr_cons, List.foldr_append]

end Pass

end QueryGateway.Expr
