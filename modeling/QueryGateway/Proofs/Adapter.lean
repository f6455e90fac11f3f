import QueryGateway.Adapters
import QueryGateway.Proofs.Dictionary
import QueryGateway.Proofs.Document.Validation

/-!
What an adapter does with a template that it has validated.

Such a template makes artifacts of the adapter's own kind, so that only the engine itself can
refuse them (`Fits.refused`).  What is checked and what is made does not depend on the engine
(`SameKind`), and executing changes nothing else.  So neither the choice of an adapter nor what
it takes changes with its engine (`select_insert`).
-/

namespace QueryGateway

open Document (Readable EvaluatesIn Agree Misfit wrongType)

namespace Adapter

variable {d : Delimiters} {ctx ctx' : Context} {template : Json} {adapter : Adapter}

/-! ## Expressions -/

/-- The expressions that an adapter evaluates to make an artifact of a template. -/
def Evaluates (d : Delimiters) (template : Json) : Adapter → Expr → Prop
  | .sql _ _, e => ∃ s es, template = .str s ∧ Expr.readTemplate d s.toList = .ok es ∧ e ∈ es
  | .documentOn _, e => ∃ query, template = .obj query ∧ EvaluatesIn d query e

theorem Evaluates.exists_string {e : Expr} (h : adapter.Evaluates d template e) :
    ∃ s ∈ Route.strings template, ∃ es, Expr.readTemplate d s.toList = .ok es ∧ e ∈ es := by
  cases adapter with
  | sql dialect engine =>
    obtain ⟨s, es, rfl, hread, he⟩ := h
    exact ⟨s, List.mem_cons_self, es, hread, he⟩
  | documentOn driver =>
    obtain ⟨query, rfl, name, value, hvalue, -, hevaluates⟩ := h
    obtain ⟨s, hs, hread⟩ := hevaluates.exists_string
    exact ⟨s, Document.mem_fieldStrings hvalue hs, hread⟩

/-- An artifact depends on the context through the values of these expressions alone. -/
theorem interpolate_congr (h : Agree ctx ctx' (adapter.Evaluates d template)) (supply : Supply) :
    adapter.interpolate d ctx template supply = adapter.interpolate d ctx' template supply := by
  cases adapter with
  | sql dialect engine =>
    cases template with
    | str s =>
      have hmade : Sql.Statement.ofTemplate d dialect ctx s supply =
          Sql.Statement.ofTemplate d dialect ctx' s supply := by
        cases hread : Expr.readTemplate d s.toList with
        | error e =>
          rw [Expr.readTemplate] at hread
          simp only [Sql.Statement.ofTemplate, hread]
          rfl
        | ok es =>
          have heval := Expr.evalAll_congr (fun e he => h e ⟨s, es, rfl, hread, he⟩) supply
          rw [Expr.readTemplate] at hread
          simp only [Sql.Statement.ofTemplate, hread, Except.map, heval]
      rw [interpolate, interpolate]
      simp only [hmade]
    | _ => rfl
  | documentOn driver =>
    have hmade : Document.Command.ofTemplate d ctx template supply =
        Document.Command.ofTemplate d ctx' template supply := by
      cases template with
      | obj query =>
        rw [Document.Command.ofTemplate, Document.Command.ofTemplate]
        simp only [Document.fillSections_congr (fun e he => h e ⟨query, rfl, he⟩) supply]
      | _ => rfl
    rw [interpolate, interpolate, hmade]

/-! ## Artifacts -/

/-- A template that was validated and can be read fails only in a document query, for a string
that resolved to a value of the wrong type. -/
theorem misfit_of_interpolate {supply : Supply} {e : InterpolationError}
    (hvalid : adapter.validate template = .ok ()) (hread : Readable d template)
    (h : adapter.interpolate d ctx template supply = .error e) :
    ∃ driver operation part got, adapter = .documentOn driver ∧
      Misfit d ctx template operation part got ∧
        e = .template (.document (wrongType operation part got)) := by
  cases adapter with
  | sql dialect engine =>
    cases template with
    | str s =>
      obtain ⟨es, hes⟩ := hread s List.mem_cons_self
      rw [Expr.readTemplate] at hes
      rw [interpolate] at h
      simp only [Sql.Statement.ofTemplate, hes, Except.map] at h
      cases h
    | _ => cases hvalid
  | documentOn driver =>
    rw [interpolate] at h
    cases hmade : Document.Command.ofTemplate d ctx template supply with
    | ok made =>
      rw [hmade] at h
      cases h
    | error e' =>
      obtain ⟨operation, part, got, hmisfit, rfl⟩ :=
        Document.misfit_of_ofTemplate (eq_ok_of_mapError hvalid) hread hmade
      refine ⟨driver, operation, part, got, rfl, hmisfit, ?_⟩
      rw [hmade] at h
      rw [wrongType] at h ⊢
      cases hlist : part.isList with
      | false =>
        rw [hlist] at h
        exact (Except.error.inj h).symm
      | true =>
        rw [hlist] at h
        exact (Except.error.inj h).symm

/-- Whether an artifact is of the kind that an adapter executes. -/
inductive Fits : Adapter → Artifact → Prop
  | sql (dialect : Sql.Dialect) (engine : SqlEngine) (statement : Sql.Statement) :
    Fits (.sql dialect engine) (.sql statement)
  | document (driver : DocumentDriver) (command : Document.Command) :
    Fits (.documentOn driver) (.document command)

theorem fits_of_interpolate {supply supply' : Supply} {artifact : Artifact}
    (h : adapter.interpolate d ctx template supply = .ok (artifact, supply')) :
    adapter.Fits artifact := by
  cases adapter with
  | sql dialect engine =>
    cases template with
    | str s =>
      rw [interpolate] at h
      split at h
      · obtain ⟨rfl, -⟩ := Prod.mk.inj (Except.ok.inj h)
        exact .sql dialect engine _
      · cases h
    | _ => cases h
  | documentOn driver =>
    rw [interpolate] at h
    split at h
    · obtain ⟨rfl, -⟩ := Prod.mk.inj (Except.ok.inj h)
      exact .document driver _
    · cases h
    · cases h

/-- Whether an error is the engine's refusal of an artifact of its own kind. -/
inductive Refused : ExecutionError → Prop
  | sql (detail : String) : Refused (.sqlFailed detail)
  | document (command : Document.Command) (detail : String) :
    Refused (.documentFailed command detail)

/-- Whether an error is what an adapter makes of the text with which its engine refuses an
artifact. -/
inductive Tells : Artifact → String → ExecutionError → Prop
  | sql (statement : Sql.Statement) (text : String) : Tells (.sql statement) text (.sqlFailed text)
  | document (command : Document.Command) (text : String) :
    Tells (.document command) text (.documentFailed command text)

theorem Fits.tells {artifact : Artifact} (hfits : adapter.Fits artifact) {supply : Supply}
    {e : ExecutionError} (h : (adapter.execute artifact supply).1 = .error e) :
    ∃ text, Tells artifact text e := by
  cases hfits with
  | sql dialect engine statement =>
    obtain ⟨text, -, rfl⟩ := exists_of_mapError_eq_error h
    exact ⟨text, .sql statement text⟩
  | document driver command =>
    obtain ⟨text, -, rfl⟩ := exists_of_mapError_eq_error h
    exact ⟨text, .document command text⟩

/-- An artifact that fits is refused by the engine, or not at all. -/
theorem Fits.refused {artifact : Artifact} (hfits : adapter.Fits artifact) {supply : Supply}
    {e : ExecutionError} (h : (adapter.execute artifact supply).1 = .error e) : Refused e := by
  obtain ⟨text, htells⟩ := hfits.tells h
  cases htells with
  | sql statement text => exact .sql text
  | document command text => exact .document command text

/-! ## Engines of one kind -/

/-- Whether two adapters differ in their engines alone. -/
inductive SameKind : Adapter → Adapter → Prop
  | sql (dialect : Sql.Dialect) (engine engine' : SqlEngine) :
    SameKind (.sql dialect engine) (.sql dialect engine')
  | document (driver driver' : DocumentDriver) :
    SameKind (.documentOn driver) (.documentOn driver')

theorem SameKind.refl (adapter : Adapter) : adapter.SameKind adapter := by
  cases adapter with
  | sql dialect engine => exact .sql dialect engine engine
  | documentOn driver => exact .document driver driver

theorem sameKind_execute (adapter : Adapter) (artifact : Artifact) (supply : Supply) :
    adapter.SameKind (adapter.execute artifact supply).2.1 := by
  cases adapter with
  | sql dialect engine => cases artifact <;> exact .sql dialect engine engine
  | documentOn driver => cases artifact <;> exact .document driver _

theorem SameKind.validate_eq {a b : Adapter} (h : a.SameKind b) (template : Json) :
    a.validate template = b.validate template := by
  cases h <;> rfl

theorem SameKind.interpolate_eq {a b : Adapter} (h : a.SameKind b) (d : Delimiters)
    (ctx : Context) (template : Json) (supply : Supply) :
    a.interpolate d ctx template supply = b.interpolate d ctx template supply := by
  cases h <;> rfl

end Adapter

namespace Adapters

variable {adapters : Adapters} {requested : Option String} {name : String} {adapter : Adapter}

theorem entries_of_select (h : adapters.select none = .ok (name, adapter)) :
    adapters.entries = [(name, adapter)] := by
  rw [select] at h
  split at h
  · cases h
  · rename_i entry hentries
    rw [hentries, Except.ok.inj h]
  · cases h

theorem get?_of_select (h : adapters.select requested = .ok (name, adapter)) :
    adapters.get? name = some adapter := by
  cases requested with
  | some asked =>
    rw [select] at h
    split at h
    · rename_i hget
      obtain ⟨rfl, rfl⟩ := Prod.mk.inj (Except.ok.inj h)
      exact hget
    · cases h
  | none => rw [Dictionary.get?, entries_of_select h, List.lookup_cons, beq_self_eq_true]

/-- Another engine of its kind under the name of an adapter changes no selection but for that
engine. -/
theorem select_insert {adapter' : Adapter} (h : adapters.get? name = some adapter)
    (hkind : adapter.SameKind adapter') {found : String} {a : Adapter}
    (hfound : adapters.select requested = .ok (found, a)) :
    ∃ b, Adapters.select requested (adapters.insert name adapter') = .ok (found, b) ∧
      a.SameKind b := by
  have hget := get?_of_select hfound
  cases requested with
  | some asked =>
    obtain rfl : asked = found := by
      rw [select] at hfound
      split at hfound
      · exact congrArg Prod.fst (Except.ok.inj hfound)
      · cases hfound
    rw [select, Dictionary.get?_insert]
    by_cases hname : asked = name
    · rw [hname, h] at hget
      obtain rfl := Option.some.inj hget
      rw [if_pos hname]
      exact ⟨adapter', rfl, hkind⟩
    · rw [if_neg hname, hget]
      exact ⟨a, rfl, .refl a⟩
  | none =>
    -- The one adapter there is has been put back.
    have hentries := entries_of_select hfound
    rw [Dictionary.get?, hentries, List.lookup_cons] at h
    cases hname : name == found with
    | false =>
      rw [hname] at h
      cases h
    | true =>
      rw [hname] at h
      obtain rfl := Option.some.inj h
      refine ⟨adapter', ?_, hkind⟩
      rw [select, Dictionary.insert, hentries, Dictionary.insertEntry, if_pos (beq_iff_eq.mp hname),
        beq_iff_eq.mp hname]

end Adapters
end QueryGateway
