import QueryGateway.Proofs.Document.Operators
import QueryGateway.Proofs.Document.Readable

/-!
What validating a query has settled.

Filling changes neither the collection nor the operation of a query, and it keeps lists and
objects what they are.  So a query that was validated and can be read makes a command of every
context, unless a section that it gives as a string resolves to a value of the wrong type
(`misfit_of_ofTemplate`).
-/

namespace QueryGateway.Document

open Json (Fields)

variable {d : Delimiters} {ctx : Context}

/-! ## Arguments -/

/-- Whether a section takes a value that expressions resolved to. -/
def Section.takes (part : Section) : Json → Bool
  | .null => part = .filter ∨ part = .options
  | .arr _ => part.isList
  | .obj _ => !part.isList
  | _ => false

/-- The error of a section that resolved to a value of the wrong type. -/
def wrongType (operation : Operation) (part : Section) (got : Json) : TemplateError :=
  if part.isList then .arrayExpected operation part got else .objectExpected operation part got

/-- The only error of an argument is that its type is wrong. -/
theorem argument_eq_error {operation : Operation} {part : Section} {value : Json}
    {e : TemplateError} (h : argument operation part value = .error e) :
    part.takes value = false ∧ e = wrongType operation part value := by
  cases part <;> cases value <;>
    first
      | exact ⟨rfl, (Except.error.inj h).symm⟩
      | cases h

theorem takes_fill {value out : Json} {supply supply' : Supply} (part : Section)
    (h : fill d ctx value supply = .ok (out, supply')) (hstring : ∀ s, value ≠ .str s) :
    part.takes out = part.takes value := by
  cases value with
  | str s => exact absurd rfl (hstring s)
  | arr items =>
    obtain ⟨outs, -, rfl⟩ := fill_arr_eq_ok h
    rfl
  | obj fields =>
    obtain ⟨outs, -, rfl⟩ := fill_obj_eq_ok h
    rfl
  | _ =>
    rw [fill] at h
    rw [(Prod.mk.inj (Except.ok.inj h)).1]

/-! ## Checks -/

theorem allows_of_checkFields {query : Fields} (h : checkFields query = .ok ()) (part : Section) :
    part.allows (part.writtenIn (.obj query)) := by
  induction query with
  | nil => cases part <;> rfl
  | cons field rest ih =>
    obtain ⟨name, value⟩ := field
    rw [Section.writtenIn, Json.field?]
    by_cases hname : part.name = name
    · subst hname
      have hplain : (part.name == "collection" || part.name == "operation") = false := by
        cases part <;> rfl
      rw [checkFields, hplain, if_neg Bool.false_ne_true, Section.named?_name] at h
      rw [Fields.get?_cons_self]
      simp only at h
      split at h
      · assumption
      · cases h
    · rw [Fields.get?_cons_of_ne hname]
      refine ih ?_
      rw [checkFields] at h
      split at h
      · exact h
      · split at h
        · cases h
        · split at h
          · exact h
          · cases h

theorem not_null_of_checkRequired {query : Fields} {operation : Operation}
    (h : checkRequired query operation = .ok ()) {part : Section}
    (hpart : part ∈ operation.required) : part.writtenIn (.obj query) ≠ .null := by
  rw [checkRequired] at h
  split at h
  · cases h
  · rename_i hnone
    intro hnull
    refine List.find?_eq_none.mp hnone part hpart ?_
    rw [Section.writtenIn, Json.field?] at hnull
    rw [hnull]
    rfl

/-- What a valid query is: it has a collection and an operation, and its sections are allowed
and complete. -/
structure Valid (query : Fields) (operation : Operation) : Prop where
  collection : ∃ name, Fields.get? "collection" query = some (.str name)
  asked : operationOf query = .ok operation
  required : checkRequired query operation = .ok ()
  fields : checkFields query = .ok ()

theorem valid_of_validate {template : Json} (h : validate template = .ok ()) :
    ∃ query operation, template = .obj query ∧ Valid query operation := by
  cases template with
  | obj query =>
    obtain ⟨⟨⟩, hcollection, h⟩ := exists_of_bind_eq_ok h
    obtain ⟨operation, hoperation, h⟩ := exists_of_bind_eq_ok h
    obtain ⟨⟨⟩, hrequired, h⟩ := exists_of_bind_eq_ok h
    obtain ⟨⟨⟩, hfields, -⟩ := exists_of_bind_eq_ok h
    refine ⟨query, operation, rfl, ?_, hoperation, hrequired, hfields⟩
    rw [checkCollection] at hcollection
    split at hcollection
    · rename_i name hname
      exact ⟨name, hname⟩
    · cases hcollection
    · cases hcollection
  | _ => cases h

theorem arguments_required (operation : Operation) :
    ∀ part ∈ operation.arguments, part = .filter ∨ part = .options ∨ part ∈ operation.required := by
  cases operation <;> decide

/-- A section of a valid query is a string, or something that it takes. -/
theorem Valid.takes {query : Fields} {operation : Operation} (h : Valid query operation)
    {part : Section} (hpart : part ∈ operation.arguments)
    (hstring : ∀ s, part.writtenIn (.obj query) ≠ .str s) :
    part.takes (part.writtenIn (.obj query)) := by
  have hallows := allows_of_checkFields h.fields part
  cases hvalue : part.writtenIn (.obj query) with
  | null =>
    rcases arguments_required operation part hpart with rfl | rfl | hrequired
    · rfl
    · rfl
    · exact absurd hvalue (not_null_of_checkRequired h.required hrequired)
  | str s => exact absurd hvalue (hstring s)
  | arr items =>
    rw [hvalue] at hallows
    exact hallows
  | obj fields =>
    rw [hvalue] at hallows
    exact hallows
  | bool _ =>
    rw [hvalue] at hallows
    cases hallows
  | num _ =>
    rw [hvalue] at hallows
    cases hallows

/-! ## Filled queries -/

theorem fillSections_get? {query filled : Fields} {supply supply' : Supply}
    (h : fillSections d ctx query supply = .ok (filled, supply')) (name : String) :
    (Fields.get? name query = none ∧ Fields.get? name filled = none) ∨
      ∃ v o, Fields.get? name query = some v ∧ Fields.get? name filled = some o ∧
        (Section.named? name = none → o = v) := by
  induction query generalizing filled supply supply' with
  | nil =>
    rw [fillSections] at h
    obtain ⟨rfl, -⟩ := Prod.mk.inj (Except.ok.inj h)
    exact .inl ⟨rfl, rfl⟩
  | cons field rest ih =>
    obtain ⟨key, value⟩ := field
    obtain ⟨out, next, others, rfl, hvalue, hrest⟩ := fillSections_cons_eq_ok_iff.mp h
    by_cases hname : name = key
    · subst hname
      refine .inr ⟨value, out, Fields.get?_cons_self _ _ _, Fields.get?_cons_self _ _ _,
        fun hplain => ?_⟩
      rw [hplain] at hvalue
      exact (Prod.mk.inj (Except.ok.inj hvalue)).1.symm
    · rw [Fields.get?_cons_of_ne hname, Fields.get?_cons_of_ne hname]
      exact ih hrest

theorem operationOf_fillSections {query filled : Fields} {supply supply' : Supply}
    (h : fillSections d ctx query supply = .ok (filled, supply')) :
    operationOf filled = operationOf query := by
  have hoperation : Fields.get? "operation" filled = Fields.get? "operation" query := by
    rcases fillSections_get? h "operation" with ⟨hv, ho⟩ | ⟨v, o, hv, ho, hsame⟩
    · rw [hv, ho]
    · rw [hv, ho, hsame rfl]
  rw [operationOf, operationOf, hoperation]
  rcases fillSections_get? h "pipeline" with ⟨hv, ho⟩ | ⟨v, o, hv, ho, -⟩
  · rw [hv, ho]
  · rw [hv, ho]
    cases Fields.get? "operation" query <;> rfl

theorem collection_fillSections {query filled : Fields} {supply supply' : Supply}
    (h : fillSections d ctx query supply = .ok (filled, supply')) :
    Fields.get? "collection" filled = Fields.get? "collection" query := by
  rcases fillSections_get? h "collection" with ⟨hv, ho⟩ | ⟨v, o, hv, ho, hsame⟩
  · rw [hv, ho]
  · rw [hv, ho, hsame rfl]

theorem exists_error_of_ofQuery {query : Fields} {name : String} {operation : Operation}
    {e : TemplateError} (hcollection : Fields.get? "collection" query = some (.str name))
    (hoperation : operationOf query = .ok operation) (h : Command.ofQuery query = .error e) :
    ∃ part ∈ operation.arguments,
      argument operation part (part.writtenIn (.obj query)) = .error e := by
  rw [Command.ofQuery, hcollection] at h
  simp only [hoperation, bind, Except.bind] at h
  cases hargs : operation.arguments.mapM fun part =>
      argument operation part ((Fields.get? part.name query).getD .null) with
  | error e' =>
    rw [hargs] at h
    obtain rfl := Except.error.inj h
    exact exists_error_of_mapM hargs
  | ok args =>
    rw [hargs] at h
    cases h

/-- An argument of an operation that the template gives as a string, and that resolved to a
value of the wrong type. -/
structure Misfit (d : Delimiters) (ctx : Context) (template : Json) (operation : Operation)
    (part : Section) (got : Json) : Prop where
  asked : ∃ query, template = .obj query ∧ operationOf query = .ok operation
  argument : part ∈ operation.arguments
  resolved : ∃ s supply supply', part.writtenIn template = .str s ∧
    fillLeaf d ctx s supply = .ok (got, supply')
  type : part.takes got = false

/-- A query that was validated and can be read fails only for a string that resolved to a value
of the wrong type. -/
theorem misfit_of_ofTemplate {template : Json} {supply : Supply} {e : TemplateError}
    (hvalid : validate template = .ok ()) (hread : Readable d template)
    (h : Command.ofTemplate d ctx template supply = .error e) :
    ∃ operation part got, Misfit d ctx template operation part got ∧
      e = wrongType operation part got := by
  obtain ⟨query, operation, rfl, hquery⟩ := valid_of_validate hvalid
  obtain ⟨⟨filled, supply'⟩, hfilled⟩ := fillSections_total ctx hread supply
  rw [Command.ofTemplate] at h
  simp only [hfilled] at h
  cases hmade : Command.ofQuery filled with
  | ok command =>
    rw [hmade] at h
    cases h
  | error e' =>
    rw [hmade] at h
    obtain rfl := Except.error.inj h
    obtain ⟨name, hname⟩ := hquery.collection
    obtain ⟨part, hpart, hargument⟩ := exists_error_of_ofQuery
      ((collection_fillSections hfilled).trans hname)
      ((operationOf_fillSections hfilled).trans hquery.asked) hmade
    obtain ⟨htype, rfl⟩ := argument_eq_error hargument
    obtain ⟨supply₁, supply₂, hfill⟩ := fillSections_writtenIn hfilled part
    -- What is no string in the template keeps its type, and validating has checked that.
    by_cases hstring : ∃ s, part.writtenIn (.obj query) = .str s
    · obtain ⟨s, hs⟩ := hstring
      rw [hs, fill] at hfill
      exact ⟨operation, part, _, ⟨⟨query, rfl, hquery.asked⟩, hpart,
        ⟨s, supply₁, supply₂, hs, hfill⟩, htype⟩, rfl⟩
    · have hplain : ∀ s, part.writtenIn (.obj query) ≠ .str s := fun s hs => hstring ⟨s, hs⟩
      rw [takes_fill part hfill hplain, hquery.takes hpart hplain] at htype
      cases htype

end QueryGateway.Document
