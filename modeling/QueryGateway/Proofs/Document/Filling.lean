import QueryGateway.Document.Template
import QueryGateway.Proofs.Expression.Evaluation
import QueryGateway.Proofs.Json.Path
import QueryGateway.Proofs.Traversal

/-!
Where the parts of a filled value come from.

Filling goes along with the value: what stands at a position afterwards was filled from
what stood there, or stands inside the value of a string that is one expression as a whole
(`filledAt_fill`).  What such a string gives is the same for all supplies, up to instants
and ids (`LeafGives.alike`).
-/

namespace QueryGateway.Document

open Json (Fields)

variable {d : Delimiters} {ctx : Context}

/-! ## Strings -/

/-- Whether a string is one expression as a whole, and a value is what it gives. -/
def LeafGives (d : Delimiters) (ctx : Context) (s : String) (value : Value) : Prop :=
  ∃ hole supply supply', (Segments.of d s.toList).whole? = some hole ∧
    Expr.evalText ctx hole.inner supply = .ok (value, supply')

theorem holes_of_whole? {segments : Segments} {hole : Hole} (h : segments.whole? = some hole) :
    segments.holes = [hole] := by
  rw [Segments.whole?.eq_def] at h
  split at h
  · split at h
    · exact congrArg ([·]) (Option.some.inj h)
    · cases h
  · cases h

theorem evalText_eq_ok {s : List Char} {supply supply' : Supply} {value : Value}
    (h : Expr.evalText ctx s supply = .ok (value, supply')) :
    ∃ e, Expr.read s = .ok e ∧ e.eval ctx supply = (value, supply') := by
  rw [Expr.evalText] at h
  cases hread : Expr.read s with
  | error error =>
    rw [hread] at h
    cases h
  | ok e =>
    rw [hread] at h
    exact ⟨e, rfl, Except.ok.inj h⟩

theorem LeafGives.alike {s : String} {v w : Value} (hv : LeafGives d ctx s v)
    (hw : LeafGives d ctx s w) : v.Alike w := by
  obtain ⟨hole, supply, _, hhole, hvalue⟩ := hv
  obtain ⟨hole', supply', _, hhole', hvalue'⟩ := hw
  obtain rfl := Option.some.inj (hhole.symm.trans hhole')
  obtain ⟨e, hread, heval⟩ := evalText_eq_ok hvalue
  obtain ⟨e', hread', heval'⟩ := evalText_eq_ok hvalue'
  obtain rfl := Except.ok.inj (hread.symm.trans hread')
  have h := e.eval_alike ctx supply supply'
  rw [heval, heval'] at h
  exact h

/-- A string is filled by the value of the expression that it is as a whole, or it stays
a string. -/
theorem fillLeaf_cases {s : String} {supply supply' : Supply} {out : Json}
    (h : fillLeaf d ctx s supply = .ok (out, supply')) :
    (∃ value, LeafGives d ctx s value ∧ out = value.toDocument) ∨
      ((∀ value, ¬LeafGives d ctx s value) ∧ ∃ text, out = .str text) := by
  simp only [fillLeaf] at h
  cases hread : (Segments.of d s.toList).holes.mapM fun hole => Expr.read hole.inner with
  | error e =>
    rw [hread] at h
    cases h
  | ok exprs =>
    rw [hread] at h
    cases hwhole : (Segments.of d s.toList).whole? with
    | none =>
      rw [hwhole] at h
      refine .inr ⟨fun value hgives => ?_, _, (congrArg Prod.fst (Except.ok.inj h)).symm⟩
      obtain ⟨hole, -, -, hhole, -⟩ := hgives
      rw [hwhole] at hhole
      cases hhole
    | some hole =>
      have hforall := mapM_eq_ok_iff.mp hread
      rw [holes_of_whole? hwhole] at hforall
      obtain ⟨e, rest, he, hrest, rfl⟩ := List.forall₂_cons_left_iff.mp hforall
      rw [List.forall₂_nil_left_iff.mp hrest, hwhole] at h
      simp only [Except.map, Expr.evalAll] at h
      refine .inl ⟨(e.eval ctx supply).1, ⟨hole, supply, (e.eval ctx supply).2, hwhole, ?_⟩,
        (congrArg Prod.fst (Except.ok.inj h)).symm⟩
      rw [Expr.evalText, he]
      rfl

/-! ## One part after the other -/

section Parts

variable {supply supply' : Supply}

theorem fillItems_cons_eq_ok_iff {item : Json} {rest outs : List Json} :
    fillItems d ctx (item :: rest) supply = .ok (outs, supply') ↔
      ∃ out next others, outs = out :: others ∧ fill d ctx item supply = .ok (out, next) ∧
        fillItems d ctx rest next = .ok (others, supply') := by
  rw [fillItems, ← bind_map_eq_ok_iff]
  refine Eq.congr_left ?_
  cases fill d ctx item supply with
  | error e => rfl
  | ok first => cases h : fillItems d ctx rest first.2 <;> simp only [Except.bind, Except.map, h]

theorem fillFields_cons_eq_ok_iff {field : String × Json} {rest outs : Fields} :
    fillFields d ctx (field :: rest) supply = .ok (outs, supply') ↔
      ∃ out next others, outs = (field.1, out) :: others ∧
        fill d ctx field.2 supply = .ok (out, next) ∧
        fillFields d ctx rest next = .ok (others, supply') := by
  rw [fillFields, ← bind_map_eq_ok_iff]
  refine Eq.congr_left ?_
  cases fill d ctx field.2 supply with
  | error e => rfl
  | ok first => cases h : fillFields d ctx rest first.2 <;> simp only [Except.bind, Except.map, h]

/-- Only the sections among the fields of a query are filled. -/
theorem fillSections_cons_eq_ok_iff {field : String × Json} {rest outs : Fields} :
    fillSections d ctx (field :: rest) supply = .ok (outs, supply') ↔
      ∃ out next others, outs = (field.1, out) :: others ∧
        (if (Section.named? field.1).isSome then fill d ctx field.2 supply
          else .ok (field.2, supply)) = .ok (out, next) ∧
        fillSections d ctx rest next = .ok (others, supply') := by
  rw [fillSections, ← bind_map_eq_ok_iff]
  refine Eq.congr_left ?_
  generalize (if (Section.named? field.1).isSome = true then fill d ctx field.2 supply
    else .ok (field.2, supply)) = filled
  cases filled with
  | error e => rfl
  | ok first => cases h : fillSections d ctx rest first.2 <;> simp only [Except.bind, Except.map, h]

end Parts

/-! ## Positions -/

theorem fillItems_getElem? {items outs : List Json} {supply supply' : Supply}
    (h : fillItems d ctx items supply = .ok (outs, supply')) (i : Nat) :
    (items[i]? = none ∧ outs[i]? = none) ∨ ∃ v o supply₁ supply₂, items[i]? = some v ∧
      outs[i]? = some o ∧ fill d ctx v supply₁ = .ok (o, supply₂) := by
  induction items generalizing outs supply supply' i with
  | nil =>
    rw [fillItems] at h
    obtain ⟨rfl, -⟩ := Prod.mk.inj (Except.ok.inj h)
    exact .inl ⟨rfl, rfl⟩
  | cons item rest ih =>
    obtain ⟨out, next, others, rfl, hitem, hrest⟩ := fillItems_cons_eq_ok_iff.mp h
    cases i with
    | zero => exact .inr ⟨item, out, supply, next, rfl, rfl, hitem⟩
    | succ i => exact ih hrest i

theorem fillFields_get? {fields outs : Fields} {supply supply' : Supply}
    (h : fillFields d ctx fields supply = .ok (outs, supply')) (key : String) :
    (Fields.get? key fields = none ∧ Fields.get? key outs = none) ∨
      ∃ v o supply₁ supply₂, Fields.get? key fields = some v ∧
        Fields.get? key outs = some o ∧ fill d ctx v supply₁ = .ok (o, supply₂) := by
  induction fields generalizing outs supply supply' with
  | nil =>
    rw [fillFields] at h
    obtain ⟨rfl, -⟩ := Prod.mk.inj (Except.ok.inj h)
    exact .inl ⟨rfl, rfl⟩
  | cons field rest ih =>
    obtain ⟨name, value⟩ := field
    obtain ⟨out, next, others, rfl, hvalue, hrest⟩ := fillFields_cons_eq_ok_iff.mp h
    by_cases hkey : key = name
    · rw [hkey]
      exact .inr ⟨value, out, supply, next, Fields.get?_cons_self _ _ _,
        Fields.get?_cons_self _ _ _, hvalue⟩
    · rw [Fields.get?_cons_of_ne hkey, Fields.get?_cons_of_ne hkey]
      exact ih hrest

theorem isSome_get?_fillFields {fields outs : Fields} {supply supply' : Supply}
    (h : fillFields d ctx fields supply = .ok (outs, supply')) (key : String) :
    (Fields.get? key outs).isSome = (Fields.get? key fields).isSome := by
  rcases fillFields_get? h key with ⟨hv, ho⟩ | ⟨v, o, _, _, hv, ho, -⟩
  · rw [hv, ho]
  · rw [hv, ho]
    rfl

theorem fill_arr_eq_ok {items : List Json} {out : Json} {supply supply' : Supply}
    (h : fill d ctx (.arr items) supply = .ok (out, supply')) :
    ∃ outs, fillItems d ctx items supply = .ok (outs, supply') ∧ out = .arr outs := by
  rw [fill] at h
  cases hitems : fillItems d ctx items supply with
  | error e => simp [hitems, Except.map] at h
  | ok filled =>
    rw [hitems] at h
    obtain ⟨hout, hsupply⟩ := Prod.mk.inj (Except.ok.inj h)
    exact ⟨filled.1, by rw [← hsupply], hout.symm⟩

theorem fill_obj_eq_ok {fields : Fields} {out : Json} {supply supply' : Supply}
    (h : fill d ctx (.obj fields) supply = .ok (out, supply')) :
    ∃ outs, fillFields d ctx fields supply = .ok (outs, supply') ∧ out = .obj outs := by
  rw [fill] at h
  cases hfields : fillFields d ctx fields supply with
  | error e => simp [hfields, Except.map] at h
  | ok filled =>
    rw [hfields] at h
    obtain ⟨hout, hsupply⟩ := Prod.mk.inj (Except.ok.inj h)
    exact ⟨filled.1, by rw [← hsupply], hout.symm⟩

/-- What stands at a position of a filled value, and what stood there. -/
inductive FilledAt (d : Delimiters) (ctx : Context) (value out : Json) (segments : List String) :
    Prop
  | missing (before : value.walk segments = none) (after : out.walk segments = none)
  | part {v o : Json} {supply supply' : Supply} (before : value.walk segments = some v)
      (after : out.walk segments = some o) (filled : fill d ctx v supply = .ok (o, supply'))
  | inside (leading rest : List String) {s : String} {o : Json} {supply supply' : Supply}
      (split : segments = leading ++ rest) (below : rest ≠ [])
      (before : value.walk leading = some (.str s))
      (filled : fillLeaf d ctx s supply = .ok (o, supply'))
      (after : out.walk segments = o.walk rest)

theorem FilledAt.below {value out v o : Json} {segment : String} {rest : List String}
    (h : FilledAt d ctx v o rest) (hv : ∀ path, value.walk (segment :: path) = v.walk path)
    (ho : ∀ path, out.walk (segment :: path) = o.walk path) :
    FilledAt d ctx value out (segment :: rest) := by
  cases h with
  | missing before after =>
    exact .missing ((hv rest).trans before) ((ho rest).trans after)
  | part before after filled =>
    exact .part ((hv rest).trans before) ((ho rest).trans after) filled
  | inside leading last split below before filled after =>
    refine .inside (segment :: leading) last ?_ below ((hv leading).trans before) filled
      ((ho rest).trans after)
    rw [split, List.cons_append]

/-- Each position of a filled value was filled from the same position, or from a string
that stood on the way to it. -/
theorem filledAt_fill {value out : Json} {supply supply' : Supply}
    (h : fill d ctx value supply = .ok (out, supply')) (segments : List String) :
    FilledAt d ctx value out segments := by
  induction segments generalizing value out supply supply' with
  | nil => exact .part (by cases value <;> rfl) (by cases out <;> rfl) h
  | cons segment rest ih =>
    cases value with
    | str s =>
      rw [fill] at h
      exact .inside [] (segment :: rest) rfl (List.cons_ne_nil _ _) rfl h rfl
    | arr items =>
      obtain ⟨outs, hitems, rfl⟩ := fill_arr_eq_ok h
      cases hindex : Json.index? segment with
      | none => exact .missing (Json.walk_arr hindex items rest) (Json.walk_arr hindex outs rest)
      | some i =>
        rcases fillItems_getElem? hitems i with ⟨hi, ho⟩ | ⟨v, o, _, _, hi, ho, hfill⟩
        · refine .missing ((Json.walk_arr hindex items rest).trans ?_)
            ((Json.walk_arr hindex outs rest).trans ?_)
          · rw [Option.bind_some, hi, Option.bind_none]
          · rw [Option.bind_some, ho, Option.bind_none]
        · refine (ih hfill).below (fun path => (Json.walk_arr hindex items path).trans ?_)
            (fun path => (Json.walk_arr hindex outs path).trans ?_)
          · rw [Option.bind_some, hi, Option.bind_some]
          · rw [Option.bind_some, ho, Option.bind_some]
    | obj fields =>
      obtain ⟨outs, hfields, rfl⟩ := fill_obj_eq_ok h
      rcases fillFields_get? hfields segment with ⟨hi, ho⟩ | ⟨v, o, _, _, hi, ho, hfill⟩
      · refine .missing ((Json.walk_obj segment fields rest).trans ?_)
          ((Json.walk_obj segment outs rest).trans ?_)
        · rw [hi, Option.bind_none]
        · rw [ho, Option.bind_none]
      · refine (ih hfill).below (fun path => (Json.walk_obj segment fields path).trans ?_)
          (fun path => (Json.walk_obj segment outs path).trans ?_)
        · rw [hi, Option.bind_some]
        · rw [ho, Option.bind_some]
    | _ =>
      rw [fill] at h
      obtain ⟨rfl, -⟩ := Prod.mk.inj (Except.ok.inj h)
      exact .missing rfl rfl

/-- What stands at a position is filled there. -/
theorem walk_fill {value out v : Json} {supply supply' : Supply}
    (h : fill d ctx value supply = .ok (out, supply')) {segments : List String}
    (hwalk : value.walk segments = some v) :
    ∃ o supply₁ supply₂, out.walk segments = some o ∧
      fill d ctx v supply₁ = .ok (o, supply₂) := by
  cases filledAt_fill h segments with
  | missing before after =>
    rw [hwalk] at before
    cases before
  | part before after filled =>
    obtain rfl := Option.some.inj (hwalk.symm.trans before)
    exact ⟨_, _, _, after, filled⟩
  | inside leading rest split below before filled after =>
    rw [split, Json.walk_append, before, Option.bind_some] at hwalk
    cases rest with
    | nil => exact absurd rfl below
    | cons _ _ => cases hwalk

end QueryGateway.Document
