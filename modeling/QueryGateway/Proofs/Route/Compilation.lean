import QueryGateway.Proofs.Traversal
import QueryGateway.Route.Compilation

/-!
What compiling a route has checked.

A route compiles only if the expressions in all strings of its query can be read, and it uses
claims exactly if one of them reads a claim at some depth.
-/

namespace QueryGateway

namespace Expr

/-- Whether an expression reads something inside a namespace, itself or in an argument at any
depth. -/
inductive Reads (ns : Namespace) : Expr → Prop
  | ref {segments : List String} (inside : segments ≠ []) : Reads ns (.ref ns segments)
  | arg {function : Builtin} {args : List Expr} {e : Expr} (mem : e ∈ args) (reads : Reads ns e) :
    Reads ns (.call function args)

theorem anyReadsPropertyOf_of_mem {ns : Namespace} {e : Expr} {es : List Expr} (hmem : e ∈ es)
    (h : e.readsPropertyOf ns) : anyReadsPropertyOf ns es := by
  induction es with
  | nil => cases hmem
  | cons first rest ih =>
    rw [anyReadsPropertyOf, Bool.or_eq_true]
    rcases List.mem_cons.mp hmem with rfl | hrest
    · exact .inl h
    · exact .inr (ih hrest)

theorem Reads.readsPropertyOf {ns : Namespace} {e : Expr} (h : e.Reads ns) :
    e.readsPropertyOf ns := by
  induction h with
  | ref inside =>
    rw [Expr.readsPropertyOf, beq_self_eq_true, List.isEmpty_eq_false_iff.mpr inside]
    rfl
  | arg mem _ ih => exact anyReadsPropertyOf_of_mem mem ih

end Expr

namespace Route

/-- Whether the route was compiled from a query that can be read, whose expressions decide
whether it uses claims. -/
def Compiled (d : Delimiters) (route : Route) : Prop :=
  ∃ exprs, expressions d route.template = .ok exprs ∧
    route.usesAuth = Expr.anyReadsPropertyOf .auth exprs

theorem of_compile {d : Delimiters} {definition : Definition} {route : Route}
    (h : compile d definition = .ok route) :
    methodOf definition = .ok route.method ∧ Pattern.ofPath route.path = .ok route.pattern ∧
      route.Compiled d := by
  obtain ⟨method, hmethod, h⟩ := exists_of_bind_eq_ok h
  obtain ⟨pattern, hpattern, h⟩ := exists_of_bind_eq_ok h
  obtain ⟨exprs, hexprs, h⟩ := exists_of_bind_eq_ok h
  obtain ⟨fieldMap, -, h⟩ := exists_of_bind_eq_ok h
  obtain ⟨extraction, -, h⟩ := exists_of_bind_eq_ok h
  split at h
  · cases h
  · obtain rfl := Except.ok.inj h
    exact ⟨hmethod, eq_ok_of_mapError hpattern, exprs, eq_ok_of_mapError hexprs, rfl⟩

theorem compiled_of_compile {d : Delimiters} {definition : Definition} {route : Route}
    (h : compile d definition = .ok route) : route.Compiled d := (of_compile h).2.2

theorem ofPath_of_compile {d : Delimiters} {definition : Definition} {route : Route}
    (h : compile d definition = .ok route) : Pattern.ofPath route.path = .ok route.pattern :=
  (of_compile h).2.1

/-- The method of a route is in upper case. -/
theorem exists_toUpper_of_compile {d : Delimiters} {definition : Definition} {route : Route}
    (h : compile d definition = .ok route) : ∃ method : String, route.method = method.toUpper := by
  have hmethod := (of_compile h).1
  rw [methodOf] at hmethod
  split at hmethod
  · cases hmethod
  · exact ⟨_, (Except.ok.inj hmethod).symm⟩

/-- The expressions of a query are those of its strings. -/
theorem mem_expressions {d : Delimiters} {template : Json} {exprs : List Expr}
    (h : expressions d template = .ok exprs) {s : String} (hs : s ∈ strings template) :
    ∃ es, Expr.readTemplate d s.toList = .ok es ∧ es ⊆ exprs := by
  rw [expressions] at h
  cases hall : (strings template).mapM fun text => Expr.readTemplate d text.toList with
  | error e =>
    rw [hall] at h
    cases h
  | ok found =>
    rw [hall] at h
    obtain rfl := Except.ok.inj h
    obtain ⟨es, hes, hread⟩ := exists_ok_of_mapM hall hs
    exact ⟨es, hread, fun e he => List.mem_flatten.mpr ⟨es, hes, he⟩⟩

end Route
end QueryGateway
