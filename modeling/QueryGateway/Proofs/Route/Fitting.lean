import QueryGateway.Route.Pattern

/-!
Which texts fit a pattern.

`Fills` says what the parameters of a pattern can stand for, without a choice between several
ways.  A text fits a pattern exactly if there is such a way, and what `captures?` gives is one of
them.
-/

namespace QueryGateway.Route.Pattern

/-- Whether the parameters of a pattern can stand for these texts in a text that fits it. -/
inductive Fills : Pattern → List (List Char) → List Char → Prop
  | nil : Fills [] [] []
  | literal {text : List Char} {pieces : Pattern} {captured : List (List Char)} {s : List Char}
    (rest : Fills pieces captured s) : Fills (.literal text :: pieces) captured (text ++ s)
  | param {name : String} {taken : List Char} {pieces : Pattern} {captured : List (List Char)}
    {s : List Char} (nonempty : taken ≠ []) (whole : '/' ∉ taken)
    (rest : Fills pieces captured s) :
    Fills (.param name :: pieces) (taken :: captured) (taken ++ s)

variable {after : List Char → Option (List (List Char))} {captured : List (List Char)}
  {pattern : Pattern} {s : List Char}

theorem takeParam_eq_some (h : takeParam after s = some captured) :
    ∃ taken more rest, captured = taken :: more ∧ s = taken ++ rest ∧ taken ≠ [] ∧
      '/' ∉ taken ∧ after rest = some more := by
  induction s generalizing captured with
  | nil => cases h
  | cons c s ih =>
    rw [takeParam] at h
    split at h
    · cases h
    rename_i hc
    split at h
    · rename_i taken more hlonger
      obtain rfl := Option.some.inj h
      obtain ⟨taken', more', rest, heq, rfl, -, hwhole, hafter⟩ := ih hlonger
      obtain ⟨rfl, rfl⟩ := List.cons.inj heq
      exact ⟨c :: taken, more, rest, rfl, rfl, List.cons_ne_nil _ _,
        List.not_mem_cons_of_ne_of_not_mem (Ne.symm hc) hwhole, hafter⟩
    · obtain ⟨more, hafter, rfl⟩ := Option.map_eq_some_iff.mp h
      exact ⟨[c], more, s, rfl, rfl, List.cons_ne_nil _ _,
        List.not_mem_cons_of_ne_of_not_mem (Ne.symm hc) List.not_mem_nil, hafter⟩

/-- A parameter finds a way if there is one, though it tries to take more first. -/
theorem isSome_takeParam {taken rest : List Char} (hnonempty : taken ≠ []) (hwhole : '/' ∉ taken)
    (hafter : (after rest).isSome) : (takeParam after (taken ++ rest)).isSome := by
  induction taken with
  | nil => exact absurd rfl hnonempty
  | cons c taken ih =>
    have hc : ¬c = '/' := (List.ne_of_not_mem_cons hwhole).symm
    rw [List.cons_append, takeParam, if_neg hc]
    split
    · rfl
    · rename_i hshort
      cases taken with
      | nil => rwa [Option.isSome_map]
      | cons d taken =>
        have hlonger := ih (List.cons_ne_nil _ _) (List.not_mem_of_not_mem_cons hwhole)
        obtain ⟨captured, hcaptured⟩ := Option.isSome_iff_exists.mp hlonger
        obtain ⟨more, others, -, rfl, -⟩ := takeParam_eq_some hcaptured
        exact absurd hcaptured (hshort more others)

theorem fills_of_captures? (h : pattern.captures? s = some captured) :
    Fills pattern captured s := by
  rw [captures?_eq_fit?] at h
  induction pattern generalizing s captured with
  | nil =>
    rw [fit?] at h
    split at h
    · rename_i hempty
      obtain rfl := Option.some.inj h
      rw [List.isEmpty_iff.mp hempty]
      exact .nil
    · cases h
  | cons piece pieces ih =>
    cases piece with
    | literal text =>
      obtain ⟨rest, hrest, hfit⟩ := Option.bind_eq_some_iff.mp h
      rw [Text.after?_eq_some_iff.mp hrest]
      exact .literal (ih hfit)
    | param name =>
      obtain ⟨taken, more, rest, rfl, rfl, hnonempty, hwhole, hfit⟩ := takeParam_eq_some h
      exact .param hnonempty hwhole (ih hfit)

theorem Fills.isSome_captures? (h : Fills pattern captured s) :
    (pattern.captures? s).isSome := by
  rw [captures?_eq_fit?]
  induction h with
  | nil => rfl
  | @literal text pieces captured s rest ih =>
    rw [fit?, Text.after?_eq_some_iff.mpr rfl]
    exact ih
  | param nonempty whole rest ih => exact isSome_takeParam nonempty whole ih

theorem Fills.length_eq (h : Fills pattern captured s) :
    captured.length = pattern.names.length := by
  induction h with
  | nil => rfl
  | literal rest ih => exact ih
  | param nonempty whole rest ih =>
    rw [List.length_cons, ih]
    rfl

end QueryGateway.Route.Pattern
