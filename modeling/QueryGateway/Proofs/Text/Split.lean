import QueryGateway.Text.Split

/-!
Cutting a text at a separator and joining its pieces undo each other.  Cutting it at a word finds
the first occurrence of the word (`breakOn?_eq_some_iff`).
-/

namespace QueryGateway.Text

theorem split_ne_nil (sep : Char) (s : List Char) : split sep s ≠ [] := by
  induction s with
  | nil => simp [split]
  | cons c rest ih =>
    rw [split]
    by_cases hc : c = sep
    · rw [if_pos hc]
      exact List.cons_ne_nil _ _
    · rw [if_neg hc]
      cases hs : split sep rest with
      | nil => exact absurd hs ih
      | cons piece pieces => exact List.cons_ne_nil _ _

/-- Cutting is undone by joining. -/
theorem intercalate_split (sep : Char) (s : List Char) :
    List.intercalate [sep] (split sep s) = s := by
  induction s with
  | nil => rfl
  | cons c rest ih =>
    cases hs : split sep rest with
    | nil => exact absurd hs (split_ne_nil sep rest)
    | cons piece pieces =>
      rw [hs] at ih
      rw [split, hs]
      by_cases hc : c = sep
      · rw [if_pos hc, List.intercalate_cons_cons, ih, hc]
        rfl
      · rw [if_neg hc, List.intercalate_cons_cons_left, ih]

theorem eq_of_split_eq_singleton {sep : Char} {s piece : List Char}
    (h : split sep s = [piece]) : s = piece := by
  rw [← intercalate_split sep s, h, List.intercalate_singleton]

theorem eq_of_splitString_eq_singleton {sep : Char} {s piece : String}
    (h : splitString sep s = [piece]) : s = piece := by
  rw [splitString, List.map_eq_singleton_iff] at h
  obtain ⟨cs, hcs, rfl⟩ := h
  rw [← eq_of_split_eq_singleton hcs, String.ofList_toList]

theorem split_of_not_mem {sep : Char} {piece : List Char} (h : sep ∉ piece) :
    split sep piece = [piece] := by
  induction piece with
  | nil => rfl
  | cons c rest ih =>
    rw [split, if_neg (List.ne_of_not_mem_cons h).symm, ih (List.not_mem_of_not_mem_cons h)]

theorem split_append_cons {sep : Char} {piece : List Char} (h : sep ∉ piece) (s : List Char) :
    split sep (piece ++ sep :: s) = piece :: split sep s := by
  induction piece with
  | nil => rw [List.nil_append, split, if_pos rfl]
  | cons c rest ih =>
    rw [List.cons_append, split, if_neg (List.ne_of_not_mem_cons h).symm,
      ih (List.not_mem_of_not_mem_cons h)]

/-- Joining is undone by cutting, where no piece holds the separator. -/
theorem split_intercalate {sep : Char} {first : List Char} {rest : List (List Char)}
    (h : ∀ piece ∈ first :: rest, sep ∉ piece) :
    split sep (List.intercalate [sep] (first :: rest)) = first :: rest := by
  induction rest generalizing first with
  | nil =>
    rw [List.intercalate_singleton]
    exact split_of_not_mem (h first List.mem_cons_self)
  | cons second rest ih =>
    rw [List.intercalate_cons_cons, List.append_assoc, List.singleton_append,
      split_append_cons (h first List.mem_cons_self),
      ih fun piece hp => h piece (List.mem_cons_of_mem _ hp)]

theorem splitString_intercalate {sep : Char} {joint first : String} {rest : List String}
    (hjoint : joint.toList = [sep]) (h : ∀ piece ∈ first :: rest, sep ∉ piece.toList) :
    splitString sep (joint.intercalate (first :: rest)) = first :: rest := by
  have hpieces : ∀ piece ∈ first.toList :: rest.map String.toList, sep ∉ piece := by
    rw [← List.map_cons]
    exact List.forall_mem_map.mpr h
  rw [splitString, String.toList_intercalate, hjoint, List.map_cons, split_intercalate hpieces,
    ← List.map_cons, List.map_map]
  exact (List.map_congr_left fun piece _ => String.ofList_toList).trans (List.map_id _)

theorem mem_intercalate {sep c : Char} {pieces : List (List Char)}
    (h : c ∈ List.intercalate [sep] pieces) : c = sep ∨ ∃ piece ∈ pieces, c ∈ piece := by
  cases pieces with
  | nil => cases h
  | cons first rest =>
    induction rest generalizing first with
    | nil =>
      rw [List.intercalate_singleton] at h
      exact .inr ⟨first, List.mem_cons_self, h⟩
    | cons second rest ih =>
      rw [List.intercalate_cons_cons, List.append_assoc, List.mem_append, List.mem_append,
        List.mem_singleton] at h
      rcases h with hfirst | hsep | hrest
      · exact .inr ⟨first, List.mem_cons_self, hfirst⟩
      · exact .inl hsep
      · exact (ih second hrest).imp_right fun ⟨piece, hpiece, hc⟩ =>
          ⟨piece, List.mem_cons_of_mem _ hpiece, hc⟩

theorem not_mem_of_mem_split {sep : Char} {s piece : List Char} (h : piece ∈ split sep s) :
    sep ∉ piece := by
  induction s generalizing piece with
  | nil =>
    obtain rfl := List.mem_singleton.mp h
    exact List.not_mem_nil
  | cons c rest ih =>
    rw [split] at h
    by_cases hc : c = sep
    · rw [if_pos hc] at h
      rcases List.mem_cons.mp h with rfl | hrest
      · exact List.not_mem_nil
      · exact ih hrest
    · rw [if_neg hc] at h
      cases hs : split sep rest with
      | nil => exact absurd hs (split_ne_nil sep rest)
      | cons first others =>
        rw [hs] at h ih
        rcases List.mem_cons.mp h with rfl | hrest
        · exact List.not_mem_cons_of_ne_of_not_mem (Ne.symm hc) (ih List.mem_cons_self)
        · exact ih (List.mem_cons_of_mem _ hrest)

/-- Cutting a text in front of a separator and behind it, each by itself. -/
theorem split_append_sep (sep : Char) (s t : List Char) :
    split sep (s ++ sep :: t) = split sep s ++ split sep t := by
  induction s with
  | nil => exact if_pos rfl
  | cons c rest ih =>
    rw [List.cons_append, split, split]
    by_cases hc : c = sep
    · rw [if_pos hc, if_pos hc, ih]
      rfl
    · obtain ⟨piece, pieces, hrest⟩ := List.exists_cons_of_ne_nil (split_ne_nil sep rest)
      rw [if_neg hc, if_neg hc, ih, hrest]
      rfl

theorem exists_split_append {sep : Char} {s : List Char} (h : sep ∉ s) (t : List Char) :
    ∃ piece pieces, split sep (s ++ t) = (s ++ piece) :: pieces := by
  induction s with
  | nil => exact List.exists_cons_of_ne_nil (split_ne_nil sep t)
  | cons c s ih =>
    obtain ⟨piece, pieces, hs⟩ := ih (List.not_mem_of_not_mem_cons h)
    refine ⟨piece, pieces, ?_⟩
    rw [List.cons_append, split, if_neg (List.ne_of_not_mem_cons h).symm, hs]
    rfl

/-- A part of a text without a separator is a part of one piece. -/
theorem exists_infix_of_split {sep : Char} {part s : List Char} (hpart : part <:+: s)
    (h : sep ∉ part) : ∃ piece ∈ split sep s, part <:+: piece := by
  obtain ⟨before, after, rfl⟩ := hpart
  induction before with
  | nil =>
    obtain ⟨piece, pieces, hs⟩ := exists_split_append h after
    rw [List.nil_append, hs]
    exact ⟨part ++ piece, List.mem_cons_self, (List.prefix_append part piece).isInfix⟩
  | cons c before ih =>
    obtain ⟨piece, hpiece, hwithin⟩ := ih
    rw [List.cons_append, List.cons_append, split]
    split
    · exact ⟨piece, List.mem_cons_of_mem _ hpiece, hwithin⟩
    · cases hs : split sep (before ++ part ++ after) with
      | nil => exact absurd hs (split_ne_nil sep _)
      | cons first others =>
        rw [hs] at hpiece
        rcases List.mem_cons.mp hpiece with rfl | hrest
        · exact ⟨c :: piece, List.mem_cons_self,
            hwithin.trans (List.suffix_cons c piece).isInfix⟩
        · exact ⟨piece, List.mem_cons_of_mem _ hrest, hwithin⟩

/-! ## Cutting at the last separator -/

/-- What stands before and after the last occurrence of a separator. -/
def breakAtLast? (sep : Char) : List Char → Option (List Char × List Char)
  | [] => none
  | c :: rest =>
    ((breakAtLast? sep rest).map fun p => (c :: p.1, p.2)).or
      (if c = sep then some ([], rest) else none)

theorem breakAtLast?_eq_none_iff {sep : Char} {s : List Char} :
    breakAtLast? sep s = none ↔ sep ∉ s := by
  induction s with
  | nil => exact iff_of_true rfl List.not_mem_nil
  | cons c rest ih =>
    rw [breakAtLast?, Option.or_eq_none_iff, Option.map_eq_none_iff, ih, List.mem_cons, not_or,
      and_comm]
    simp [eq_comm]

theorem of_breakAtLast? {sep : Char} {s before after : List Char}
    (h : breakAtLast? sep s = some (before, after)) : s = before ++ sep :: after ∧ sep ∉ after := by
  induction s generalizing before with
  | nil => cases h
  | cons c rest ih =>
    rw [breakAtLast?] at h
    cases hrest : breakAtLast? sep rest with
    | some p =>
      rw [hrest, Option.map_some, Option.some_or, Option.some.injEq] at h
      obtain ⟨rfl, rfl⟩ := Prod.mk.inj h
      obtain ⟨hfront, hafter⟩ := ih hrest
      exact ⟨congrArg (c :: ·) hfront, hafter⟩
    | none =>
      rw [hrest, Option.map_none, Option.none_or] at h
      obtain ⟨hc, hparts⟩ := Option.ite_none_right_eq_some.mp h
      obtain ⟨rfl, rfl⟩ := Prod.mk.inj (Option.some.inj hparts)
      exact ⟨congrArg (· :: rest) hc, breakAtLast?_eq_none_iff.mp hrest⟩

theorem split_of_breakAtLast? {sep : Char} {s before after : List Char}
    (h : breakAtLast? sep s = some (before, after)) :
    split sep s = split sep before ++ [after] := by
  obtain ⟨rfl, hafter⟩ := of_breakAtLast? h
  rw [split_append_sep, split_of_not_mem hafter]

/-! ## Cutting at a word -/

theorem not_mem_of_breakOn?_eq_none {c : Char} {s : List Char} (h : breakOn? [c] s = none) :
    c ∉ s := by
  induction s with
  | nil => exact List.not_mem_nil
  | cons d rest ih =>
    rw [breakOn?] at h
    by_cases hc : c = d
    · simp [after?, hc] at h
    · simp only [after?, if_neg hc, Option.map_eq_none_iff] at h
      exact List.not_mem_cons_of_ne_of_not_mem hc (ih h)

theorem not_mem_of_breakOn? {c : Char} {s before after : List Char}
    (h : breakOn? [c] s = some (before, after)) : c ∉ before := by
  induction s generalizing before with
  | nil => cases h
  | cons d rest ih =>
    rw [breakOn?] at h
    by_cases hc : c = d
    · simp only [after?, if_pos hc, Option.some.injEq, Prod.mk.injEq] at h
      rw [← h.1]
      exact List.not_mem_nil
    · simp only [after?, if_neg hc] at h
      obtain ⟨⟨front, rest'⟩, hfound, heq⟩ := Option.map_eq_some_iff.mp h
      obtain ⟨rfl, rfl⟩ := Prod.mk.inj heq
      exact List.not_mem_cons_of_ne_of_not_mem hc (ih hfound)

theorem startsWith_iff {word s : List Char} : startsWith word s ↔ word <+: s := by
  simp only [startsWith, Option.isSome_iff_exists, after?_eq_some_iff, List.IsPrefix,
    @eq_comm _ s]

theorem startsWith_cons_of_ne {c d : Char} (h : c ≠ d) (word s : List Char) :
    startsWith (c :: word) (d :: s) = false := by
  rw [startsWith, after?, if_neg h]
  rfl

theorem breakOn?_eq_none {word s : List Char} (h : ¬word <:+: s) : breakOn? word s = none := by
  cases hbreak : breakOn? word s with
  | none => rfl
  | some parts =>
    obtain ⟨before, after⟩ := parts
    exact absurd ⟨before, after, (eq_of_breakOn? hbreak).symm⟩ h

/-- What stands around the first occurrence of a word. -/
def FirstIn (word s before after : List Char) : Prop :=
  s = before ++ (word ++ after) ∧
    ∀ before' after', s = before' ++ (word ++ after') → before.length ≤ before'.length

theorem exists_breakOn? (word before after : List Char) :
    ∃ before' after', breakOn? word (before ++ (word ++ after)) = some (before', after') ∧
      before'.length ≤ before.length := by
  induction before with
  | nil =>
    have hafter : after? word (word ++ after) = some after := after?_eq_some_iff.mpr rfl
    cases hs : word ++ after with
    | nil =>
      obtain ⟨rfl, rfl⟩ := List.append_eq_nil_iff.mp hs
      exact ⟨[], [], rfl, Nat.le_refl _⟩
    | cons c rest =>
      rw [hs] at hafter
      rw [List.nil_append, breakOn?, hafter]
      exact ⟨[], after, rfl, Nat.le_refl _⟩
  | cons c before ih =>
    obtain ⟨before', after', hfound, hlength⟩ := ih
    rw [List.cons_append, breakOn?]
    cases after? word (c :: (before ++ (word ++ after))) with
    | some others => exact ⟨[], others, rfl, Nat.zero_le _⟩
    | none =>
      rw [hfound]
      exact ⟨c :: before', after', rfl, Nat.succ_le_succ hlength⟩

theorem breakOn?_eq_some_iff {word s before after : List Char} :
    breakOn? word s = some (before, after) ↔ FirstIn word s before after := by
  constructor
  · intro h
    refine ⟨(eq_of_breakOn? h).trans (List.append_assoc ..), ?_⟩
    rintro before' after' rfl
    obtain ⟨first, others, hfound, hlength⟩ := exists_breakOn? word before' after'
    obtain ⟨rfl, -⟩ := Prod.mk.inj (Option.some.inj (hfound.symm.trans h))
    exact hlength
  · rintro ⟨rfl, hfirst⟩
    obtain ⟨before', after', hfound, hlength⟩ := exists_breakOn? word before after
    have hs : before ++ (word ++ after) = before' ++ (word ++ after') :=
      (eq_of_breakOn? hfound).trans (List.append_assoc ..)
    obtain ⟨rfl, hafter⟩ :=
      List.append_inj hs (Nat.le_antisymm (hfirst before' after' hs) hlength)
    rw [hfound, List.append_cancel_left hafter]

theorem breakOn?_eq_none_iff {word s : List Char} : breakOn? word s = none ↔ ¬word <:+: s := by
  refine ⟨fun h => ?_, breakOn?_eq_none⟩
  rintro ⟨before, after, rfl⟩
  obtain ⟨before', after', hfound, -⟩ := exists_breakOn? word before after
  rw [List.append_assoc, hfound] at h
  cases h

/-- Before its first occurrence a word does not occur. -/
theorem FirstIn.not_infix {word s before after : List Char} (hword : word ≠ [])
    (h : FirstIn word s before after) : ¬word <:+: before := by
  rintro ⟨before', after', rfl⟩
  have hle := h.2 before' (after' ++ (word ++ after)) (by simp [h.1])
  have hlength := List.length_pos_iff.mpr hword
  simp only [List.length_append] at hle
  omega

/-- A word whose first character does not occur again is found where it stands first. -/
theorem breakOn?_append {first : Char} {word before : List Char} (hfirst : first ∉ word)
    (h : ¬first :: word <:+: before) (after : List Char) :
    breakOn? (first :: word) (before ++ (first :: word ++ after)) = some (before, after) := by
  induction before with
  | nil =>
    have hafter : after? (first :: word) (first :: word ++ after) = some after :=
      after?_eq_some_iff.mpr rfl
    rw [List.nil_append, List.cons_append, breakOn?]
    rw [List.cons_append] at hafter
    rw [hafter]
  | cons c rest ih =>
    have hnone : after? (first :: word) (c :: (rest ++ (first :: word ++ after))) = none := by
      cases hstarts : after? (first :: word) (c :: (rest ++ (first :: word ++ after))) with
      | none => rfl
      | some others =>
        obtain ⟨rfl, hrest⟩ := List.cons.inj (after?_eq_some_iff.mp hstarts)
        -- The word cannot reach into the next one, which starts with a character that it lacks.
        have hmem : ¬rest ++ [c] <+: word := fun hfront =>
          hfirst (hfront.subset (List.mem_append_right rest List.mem_cons_self))
        have hword : word <+: rest ++ (c :: word ++ after) := ⟨others, hrest.symm⟩
        have hrest : rest ++ [c] <+: rest ++ (c :: word ++ after) :=
          (List.prefix_append_right_inj rest).mpr ⟨word ++ after, rfl⟩
        have hfront : word <+: rest := by
          rcases List.prefix_or_prefix_of_prefix hword hrest with hshort | hlong
          · rcases List.prefix_concat_iff.mp hshort with heq | hfront
            · exact absurd (heq ▸ List.prefix_rfl) hmem
            · exact hfront
          · exact absurd hlong hmem
        exact absurd ((List.prefix_cons_inj c).mpr hfront).isInfix h
    have hrest : ¬first :: word <:+: rest := fun hwithin =>
      h (hwithin.trans (List.suffix_cons c rest).isInfix)
    rw [List.cons_append, breakOn?, hnone, ih hrest]
    rfl

theorem breakOn?_char_eq_none {c : Char} {s : List Char} (h : c ∉ s) : breakOn? [c] s = none :=
  breakOn?_eq_none fun hwithin => h (hwithin.subset List.mem_cons_self)

theorem breakOn?_char {c : Char} {before : List Char} (h : c ∉ before) (after : List Char) :
    breakOn? [c] (before ++ c :: after) = some (before, after) :=
  breakOn?_append List.not_mem_nil (fun hwithin => h (hwithin.subset List.mem_cons_self)) after

end QueryGateway.Text
