import QueryGateway.Document.Template
import QueryGateway.Proofs.Route.Compilation

/-!
Queries whose expressions can be read.

Filling evaluates the expressions in the strings of the sections and nothing else: it succeeds
if they can be read (`fillSections_total`), and what it gives depends on the context through
their values alone (`fillSections_congr`).
-/

namespace QueryGateway

theorem Expr.evalAll_congr {ctx ctx' : Context} {es : List Expr}
    (h : ∀ e ∈ es, ∀ supply, e.eval ctx supply = e.eval ctx' supply) (supply : Supply) :
    evalAll ctx es supply = evalAll ctx' es supply := by
  induction es generalizing supply with
  | nil => rfl
  | cons e rest ih =>
    have hrest := ih fun e' he' => h e' (List.mem_cons_of_mem _ he')
    rw [evalAll, evalAll, h e List.mem_cons_self supply]
    simp only [hrest]

namespace Document

open Json (Fields)

/-- Whether the expressions in all strings of a value can be read. -/
def Readable (d : Delimiters) (value : Json) : Prop :=
  ∀ s ∈ Route.strings value, ∃ es, Expr.readTemplate d s.toList = .ok es

/-- The expressions that filling a value evaluates. -/
inductive Evaluates (d : Delimiters) : Json → Expr → Prop
  | leaf {s : String} {es : List Expr} {e : Expr}
    (read : Expr.readTemplate d s.toList = .ok es) (mem : e ∈ es) : Evaluates d (.str s) e
  | item {items : List Json} {value : Json} {e : Expr} (mem : value ∈ items)
    (inside : Evaluates d value e) : Evaluates d (.arr items) e
  | field {fields : Fields} {name : String} {value : Json} {e : Expr}
    (mem : (name, value) ∈ fields) (inside : Evaluates d value e) : Evaluates d (.obj fields) e

variable {d : Delimiters}

/-! ## Filling succeeds -/

theorem fillLeaf_total (ctx : Context) {s : String} {es : List Expr}
    (h : Expr.readTemplate d s.toList = .ok es) (supply : Supply) :
    ∃ out, fillLeaf d ctx s supply = .ok out := by
  rw [Expr.readTemplate] at h
  simp only [fillLeaf, h]
  exact ⟨_, rfl⟩

mutual

theorem fill_total (ctx : Context) {value : Json} (h : Readable d value) (supply : Supply) :
    ∃ out, fill d ctx value supply = .ok out := by
  match value with
  | .str s =>
    obtain ⟨es, hes⟩ := h s List.mem_cons_self
    rw [fill]
    exact fillLeaf_total ctx hes supply
  | .arr items =>
    obtain ⟨out, hout⟩ := fillItems_total ctx h supply
    rw [fill, hout]
    exact ⟨_, rfl⟩
  | .obj fields =>
    obtain ⟨out, hout⟩ := fillFields_total ctx h supply
    rw [fill, hout]
    exact ⟨_, rfl⟩
  | .null => exact ⟨_, by rw [fill]⟩
  | .bool _ => exact ⟨_, by rw [fill]⟩
  | .num _ => exact ⟨_, by rw [fill]⟩

theorem fillItems_total (ctx : Context) {items : List Json} (h : Readable d (.arr items))
    (supply : Supply) : ∃ out, fillItems d ctx items supply = .ok out := by
  match items with
  | [] => exact ⟨_, by rw [fillItems]⟩
  | item :: rest =>
    have hitem : Readable d item := fun s hs => h s (List.mem_append_left _ hs)
    have hrest : Readable d (.arr rest) := fun s hs => h s (List.mem_append_right _ hs)
    obtain ⟨first, hfirst⟩ := fill_total ctx hitem supply
    obtain ⟨others, hothers⟩ := fillItems_total ctx hrest first.2
    rw [fillItems, hfirst]
    simp only [hothers]
    exact ⟨_, rfl⟩

theorem fillFields_total (ctx : Context) {fields : Fields} (h : Readable d (.obj fields))
    (supply : Supply) : ∃ out, fillFields d ctx fields supply = .ok out := by
  match fields with
  | [] => exact ⟨_, by rw [fillFields]⟩
  | (name, value) :: rest =>
    have hvalue : Readable d value := fun s hs => h s (List.mem_append_left _ hs)
    have hrest : Readable d (.obj rest) := fun s hs => h s (List.mem_append_right _ hs)
    obtain ⟨first, hfirst⟩ := fill_total ctx hvalue supply
    obtain ⟨others, hothers⟩ := fillFields_total ctx hrest first.2
    rw [fillFields, hfirst]
    simp only [hothers]
    exact ⟨_, rfl⟩

end

theorem fillSections_total (ctx : Context) {query : Fields} (h : Readable d (.obj query))
    (supply : Supply) : ∃ out, fillSections d ctx query supply = .ok out := by
  induction query generalizing supply with
  | nil => exact ⟨_, by rw [fillSections]⟩
  | cons field rest ih =>
    obtain ⟨name, value⟩ := field
    have hvalue : Readable d value := fun s hs => h s (List.mem_append_left _ hs)
    have hrest : Readable d (.obj rest) := fun s hs => h s (List.mem_append_right _ hs)
    have hfirst : ∃ first, (if (Section.named? name).isSome then fill d ctx value supply
        else .ok (value, supply)) = .ok first := by
      split
      · exact fill_total ctx hvalue supply
      · exact ⟨_, rfl⟩
    obtain ⟨first, hfirst⟩ := hfirst
    obtain ⟨others, hothers⟩ := ih hrest first.2
    rw [fillSections]
    simp only [hfirst, hothers]
    exact ⟨_, rfl⟩

/-! ## Filling depends on values -/

/-- Whether two contexts give the same values of some expressions, from every supply. -/
def Agree (ctx ctx' : Context) (expressions : Expr → Prop) : Prop :=
  ∀ e, expressions e → ∀ supply, e.eval ctx supply = e.eval ctx' supply

variable {ctx ctx' : Context}

theorem fillLeaf_congr {s : String} (h : Agree ctx ctx' (Evaluates d (.str s)))
    (supply : Supply) : fillLeaf d ctx s supply = fillLeaf d ctx' s supply := by
  cases hread : Expr.readTemplate d s.toList with
  | error e =>
    rw [Expr.readTemplate] at hread
    simp only [fillLeaf, hread]
    rfl
  | ok es =>
    have heval := Expr.evalAll_congr (fun e he => h e (.leaf hread he)) supply
    rw [Expr.readTemplate] at hread
    simp only [fillLeaf, hread, Except.map, heval]

mutual

theorem fill_congr {value : Json} (h : Agree ctx ctx' (Evaluates d value)) (supply : Supply) :
    fill d ctx value supply = fill d ctx' value supply := by
  match value with
  | .str s =>
    rw [fill, fill]
    exact fillLeaf_congr h supply
  | .arr items =>
    rw [fill, fill, fillItems_congr h supply]
  | .obj fields =>
    rw [fill, fill, fillFields_congr h supply]
  | .null => rw [fill, fill]
  | .bool _ => rw [fill, fill]
  | .num _ => rw [fill, fill]

theorem fillItems_congr {items : List Json} (h : Agree ctx ctx' (Evaluates d (.arr items)))
    (supply : Supply) : fillItems d ctx items supply = fillItems d ctx' items supply := by
  match items with
  | [] => rw [fillItems, fillItems]
  | item :: rest =>
    have hitem : Agree ctx ctx' (Evaluates d item) := fun e he =>
      h e (.item List.mem_cons_self he)
    have hrest : Agree ctx ctx' (Evaluates d (.arr rest)) := fun e he => by
      cases he with
      | item mem inside => exact h e (.item (List.mem_cons_of_mem _ mem) inside)
    rw [fillItems, fillItems, fill_congr hitem]
    simp only [fillItems_congr hrest]

theorem fillFields_congr {fields : Fields} (h : Agree ctx ctx' (Evaluates d (.obj fields)))
    (supply : Supply) : fillFields d ctx fields supply = fillFields d ctx' fields supply := by
  match fields with
  | [] => rw [fillFields, fillFields]
  | (name, value) :: rest =>
    have hvalue : Agree ctx ctx' (Evaluates d value) := fun e he =>
      h e (.field List.mem_cons_self he)
    have hrest : Agree ctx ctx' (Evaluates d (.obj rest)) := fun e he => by
      cases he with
      | field mem inside => exact h e (.field (List.mem_cons_of_mem _ mem) inside)
    rw [fillFields, fillFields, fill_congr hvalue]
    simp only [fillFields_congr hrest]

end

/-- The expressions that filling the sections of a query evaluates. -/
def EvaluatesIn (d : Delimiters) (query : Fields) (e : Expr) : Prop :=
  ∃ name value, (name, value) ∈ query ∧ (Section.named? name).isSome ∧ Evaluates d value e

theorem fillSections_congr {query : Fields} (h : Agree ctx ctx' (EvaluatesIn d query))
    (supply : Supply) : fillSections d ctx query supply = fillSections d ctx' query supply := by
  induction query generalizing supply with
  | nil => rw [fillSections, fillSections]
  | cons field rest ih =>
    obtain ⟨name, value⟩ := field
    have hrest := ih fun e ⟨name, value, mem, hname, inside⟩ =>
      h e ⟨name, value, List.mem_cons_of_mem _ mem, hname, inside⟩
    rw [fillSections, fillSections]
    by_cases hname : (Section.named? name).isSome
    · have hvalue := fill_congr
        (fun e he => h e ⟨name, value, List.mem_cons_self, hname, he⟩) supply
      simp only [hname, if_true, hvalue, hrest]
    · simp only [hname, Bool.false_eq_true, if_false, hrest]

/-! ## The strings of a query hold all that is evaluated -/

theorem mem_itemStrings {items : List Json} {value : Json} {s : String} (hvalue : value ∈ items)
    (hs : s ∈ Route.strings value) : s ∈ Route.itemStrings items := by
  induction items with
  | nil => cases hvalue
  | cons item rest ih =>
    rcases List.mem_cons.mp hvalue with rfl | hrest
    · exact List.mem_append_left _ hs
    · exact List.mem_append_right _ (ih hrest)

theorem mem_fieldStrings {fields : Fields} {name s : String} {value : Json}
    (hvalue : (name, value) ∈ fields) (hs : s ∈ Route.strings value) :
    s ∈ Route.fieldStrings fields := by
  induction fields with
  | nil => cases hvalue
  | cons field rest ih =>
    rcases List.mem_cons.mp hvalue with rfl | hrest
    · exact List.mem_append_left _ hs
    · exact List.mem_append_right _ (ih hrest)

/-- What filling evaluates stands in a string of the value. -/
theorem Evaluates.exists_string {value : Json} {e : Expr} (h : Evaluates d value e) :
    ∃ s ∈ Route.strings value, ∃ es, Expr.readTemplate d s.toList = .ok es ∧ e ∈ es := by
  induction h with
  | @leaf s es e read mem => exact ⟨s, List.mem_cons_self, es, read, mem⟩
  | item mem _ ih =>
    obtain ⟨s, hs, hread⟩ := ih
    exact ⟨s, mem_itemStrings mem hs, hread⟩
  | field mem _ ih =>
    obtain ⟨s, hs, hread⟩ := ih
    exact ⟨s, mem_fieldStrings mem hs, hread⟩

end Document
end QueryGateway
