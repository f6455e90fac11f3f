import Mathlib.Data.List.Forall2
import QueryGateway.Expression.Evaluation

/-!
How texts are evaluated, and what that takes from a supply.

A text is evaluated by its form, as it is read (`evalText_eq`).  Evaluation only draws from the
supply.  A list of expressions is evaluated one after the
other, each as it is evaluated by itself from where the supply then stands (`evalAll_each`).
Another supply gives other instants and ids, and nothing else (`eval_alike`).
-/

namespace QueryGateway

theorem Builtin.apply_drawn (function : Builtin) (args : List Value) (supply : Supply) :
    ∃ n, (function.apply args supply).2 = { supply with drawn := n } := by
  cases function with
  | default => exact ⟨supply.drawn, rfl⟩
  | now => exact ⟨supply.drawn + 1, rfl⟩
  | uuid => exact ⟨supply.drawn + 1, rfl⟩

namespace Expr

/-- A text is evaluated as a call if it has the form of one, and as a reference otherwise. -/
theorem evalText_eq (ctx : Context) (s : List Char) (supply : Supply) :
    evalText ctx s supply =
      if isCall (Text.trim s) then evalCall ctx s supply
      else (evalReference ctx s).map fun value => (value, supply) := by
  rw [evalText, read]
  split
  · rename_i hcall
    rw [evalCall, if_pos hcall, readCall]
    rfl
  · rw [evalReference]
    cases readReference s with
    | error e => rfl
    | ok found =>
      show Except.ok (eval ctx (.ref found.1 found.2) supply) = _
      rw [eval]
      rfl

mutual
theorem eval_drawn (ctx : Context) (e : Expr) (supply : Supply) :
    ∃ n, (e.eval ctx supply).2 = { supply with drawn := n } := by
  match e with
  | .ref _ _ => exact ⟨supply.drawn, by rw [eval]⟩
  | .literal _ => exact ⟨supply.drawn, by rw [eval]⟩
  | .call function args =>
    obtain ⟨n, hn⟩ := evalAll_drawn ctx args supply
    rw [eval]
    simp only [hn]
    exact function.apply_drawn _ _

theorem evalAll_drawn (ctx : Context) (es : List Expr) (supply : Supply) :
    ∃ n, (evalAll ctx es supply).2 = { supply with drawn := n } := by
  match es with
  | [] => exact ⟨supply.drawn, by rw [evalAll]⟩
  | e :: rest =>
    obtain ⟨n, hn⟩ := eval_drawn ctx e supply
    rw [evalAll]
    simp only [hn]
    exact evalAll_drawn ctx rest { supply with drawn := n }
end

/-- Expressions are evaluated one after the other, each by itself. -/
theorem evalAll_each (ctx : Context) (es : List Expr) (supply : Supply) :
    ∃ (values : List Value) (drawn : Nat → Nat),
      evalAll ctx es supply = (values, { supply with drawn := drawn es.length }) ∧
      values.length = es.length ∧ drawn 0 = supply.drawn ∧
      ∀ i (he : i < es.length) (hv : i < values.length),
        es[i].eval ctx { supply with drawn := drawn i } =
          (values[i], { supply with drawn := drawn (i + 1) }) := by
  induction es generalizing supply with
  | nil => exact ⟨[], fun _ => supply.drawn, by rw [evalAll], rfl, rfl, nofun⟩
  | cons e rest ih =>
    obtain ⟨n, hn⟩ := eval_drawn ctx e supply
    obtain ⟨values, drawn, hall, hlength, hzero, heach⟩ := ih { supply with drawn := n }
    refine ⟨(e.eval ctx supply).1 :: values, fun i => i.casesOn supply.drawn drawn, ?_,
      congrArg (· + 1) hlength, rfl, fun i he hv => ?_⟩
    · rw [evalAll]
      simp only [hn, hall, List.length_cons]
    · cases i with
      | zero =>
        show e.eval ctx supply = ((e.eval ctx supply).1, { supply with drawn := drawn 0 })
        rw [hzero, ← hn]
      | succ i => exact heach i (Nat.lt_of_succ_lt_succ he) (Nat.lt_of_succ_lt_succ hv)

end Expr

/-! ## Other supplies -/

/-- Values that are the same, or both instants, or both strings. -/
inductive Value.Alike : Value → Value → Prop
  | same (v : Value) : Alike v v
  | instants (t u : Instant) : Alike (.instant t) (.instant u)
  | strings (a b : String) : Alike (.json (.str a)) (.json (.str b))

theorem Value.Alike.isNullish {v w : Value} (h : v.Alike w) : v.isNullish = w.isNullish := by
  cases h with
  | same => rfl
  | instants => rfl
  | strings => rfl

theorem Value.Alike.getD {vs ws : List Value} (h : List.Forall₂ Value.Alike vs ws) (i : Nat) :
    (vs.getD i .undefined).Alike (ws.getD i .undefined) := by
  induction h generalizing i with
  | nil => exact .same _
  | cons hfirst _ ih =>
    cases i with
    | zero => exact hfirst
    | succ i => exact ih i

theorem Builtin.apply_alike (function : Builtin) {args args' : List Value}
    (h : List.Forall₂ Value.Alike args args') (supply supply' : Supply) :
    (function.apply args supply).1.Alike (function.apply args' supply').1 := by
  cases function with
  | default =>
    show (if (args.getD 0 .undefined).isNullish then args.getD 1 .undefined
        else args.getD 0 .undefined).Alike
      (if (args'.getD 0 .undefined).isNullish then args'.getD 1 .undefined
        else args'.getD 0 .undefined)
    rw [(Value.Alike.getD h 0).isNullish]
    by_cases hnull : (args'.getD 0 .undefined).isNullish = true
    · rw [if_pos hnull, if_pos hnull]
      exact Value.Alike.getD h 1
    · rw [if_neg hnull, if_neg hnull]
      exact Value.Alike.getD h 0
  | now => exact .instants _ _
  | uuid => exact .strings _ _

namespace Expr

mutual
/-- Two supplies make values of an expression that differ in instants and ids only. -/
theorem eval_alike (ctx : Context) (e : Expr) (supply supply' : Supply) :
    (e.eval ctx supply).1.Alike (e.eval ctx supply').1 := by
  match e with
  | .ref _ _ =>
    rw [eval, eval]
    exact .same _
  | .literal _ =>
    rw [eval, eval]
    exact .same _
  | .call function args =>
    rw [eval, eval]
    exact function.apply_alike (evalAll_alike ctx args supply supply') _ _

theorem evalAll_alike (ctx : Context) (es : List Expr) (supply supply' : Supply) :
    List.Forall₂ Value.Alike (evalAll ctx es supply).1 (evalAll ctx es supply').1 := by
  match es with
  | [] =>
    rw [evalAll, evalAll]
    exact .nil
  | e :: rest =>
    rw [evalAll, evalAll]
    exact .cons (eval_alike ctx e supply supply') (evalAll_alike ctx rest _ _)
end

end Expr
end QueryGateway
