import QueryGateway.Proofs.Expression.Splicing
import QueryGateway.Sql.Statement

/-!
What a request can change in a statement.

The text of a statement is its template with a placeholder for each reference, whatever
the request is; a request decides about the values alone (`ofTemplate_splices`).
-/

namespace QueryGateway.Sql

/-- The bytes of a template from an offset on, with a placeholder in the place of each
reference. -/
def Dialect.splice (dialect : Dialect) (template : ByteArray) :
    (offset i : Nat) → List Reference → ByteArray
  | offset, _, [] => template.extract offset template.size
  | offset, i, r :: rest =>
    template.extract offset r.start ++ (dialect.placeholder i).toByteArray ++
      splice dialect template r.stop (i + 1) rest

/-- The placeholders of some references, from an index on. -/
def Dialect.placeholdersFrom (dialect : Dialect) (i count : Nat) : List String :=
  (List.range' i count).map dialect.placeholder

theorem Dialect.splice_eq (dialect : Dialect) (template : ByteArray) (offset i : Nat)
    (references : List Reference) : dialect.splice template offset i references =
      Reference.splice template offset
        (references.zip (dialect.placeholdersFrom i references.length)) := by
  induction references generalizing offset i with
  | nil => rfl
  | cons r rest ih =>
    rw [splice, ih]
    rfl

theorem fillWith_placeholdersFrom (dialect : Dialect) (i : Nat) (holes : List Hole)
    (tail : List Char) : Segments.fillWith String.toList { holes, tail }
        (dialect.placeholdersFrom i holes.length) = placeholders dialect i holes ++ tail := by
  induction holes generalizing i with
  | nil => rfl
  | cons hole rest ih =>
    rw [placeholders, List.append_assoc, ← ih]
    simp [Segments.fillWith, Dialect.placeholdersFrom, List.range'_succ]

theorem Dialect.splice_references (dialect : Dialect) (d : Delimiters) (template : String) :
    dialect.splice template.toByteArray 0 0 (d.references template) =
      (placeholders dialect 0 (Segments.of d template.toList).holes ++
        (Segments.of d template.toList).tail).utf8Encode := by
  have hlength : (dialect.placeholdersFrom 0 (d.references template).length).length =
      (d.references template).length := by
    rw [placeholdersFrom, List.length_map, List.length_range']
  rw [splice_eq, d.splice_references template hlength, ← fillWith_placeholdersFrom]
  exact congrArg (fun count => List.utf8Encode (Segments.fillWith String.toList _
    (dialect.placeholdersFrom 0 count))) (Segments.length_referencesFrom d 0 _)

namespace Statement

/-- A template makes statements of all requests, or of none as one of its references cannot
be read.  All have the same text: the template with each reference, which stands between its
offsets, made a placeholder.  The values are those of the references, each evaluated by
itself from where the ones before it leave the supply. -/
theorem ofTemplate_splices (d : Delimiters) (dialect : Dialect) (template : String) :
    (∃ r ∈ d.references template, ∃ e, Expr.read r.inner.toList = .error e ∧
        ∀ ctx supply, ofTemplate d dialect ctx template supply = .error e) ∨
      ∃ text : String,
        text.toByteArray =
          dialect.splice template.toByteArray 0 0 (d.references template) ∧
        (∀ r ∈ d.references template,
          template.toByteArray.extract r.start r.stop = r.matched.toByteArray) ∧
        ∀ ctx supply, ∃ (values : List Value) (drawn : Nat → Nat),
          ofTemplate d dialect ctx template supply =
            .ok ({ text, values },
              { supply with drawn := drawn (d.references template).length }) ∧
          values.length = (d.references template).length ∧ drawn 0 = supply.drawn ∧
          ∀ i (hr : i < (d.references template).length) (hv : i < values.length),
            Expr.evalText ctx (d.references template)[i].inner.toList
                { supply with drawn := drawn i } =
              .ok (values[i], { supply with drawn := drawn (i + 1) }) := by
  cases hread : (Segments.of d template.toList).holes.mapM fun hole => Expr.read hole.inner with
  | error e =>
    obtain ⟨r, hr, he⟩ := exists_error_of_mapM ((d.mapM_read_holes template).symm.trans hread)
    refine .inl ⟨r, hr, e, he, fun ctx supply => ?_⟩
    simp only [ofTemplate, hread, Except.map]
  | ok exprs =>
    have hexprs := mapM_eq_ok_iff.mp ((d.mapM_read_holes template).symm.trans hread)
    have hlength : exprs.length = (d.references template).length := hexprs.length_eq.symm
    refine .inr ⟨_, String.toByteArray_ofList.trans (dialect.splice_references d template).symm,
      fun r hr => d.extract_references hr, fun ctx supply => ?_⟩
    obtain ⟨values, drawn, hall, hvalues, hzero, heach⟩ := Expr.evalAll_each ctx exprs supply
    rw [hlength] at hall hvalues
    refine ⟨values, drawn, ?_, hvalues, hzero, fun i hr hv => ?_⟩
    · simp only [ofTemplate, hread, Except.map, hall]
    · have hi := hexprs.get hr (hlength ▸ hr)
      rw [List.get_eq_getElem, List.get_eq_getElem] at hi
      rw [Expr.evalText, hi, Except.map, heach i (hlength ▸ hr) hv]

end Statement
end QueryGateway.Sql
