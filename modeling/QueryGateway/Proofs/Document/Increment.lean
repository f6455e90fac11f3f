import QueryGateway.Proofs.Document.Independence
import QueryGateway.Proofs.Number.Rounding

/-!
Increments of integers.

Two integers that are both signed 64-bit words are added exactly, or the increment fails
(`increment_int`).  If one of them is larger, both are taken for binary64 numbers, and what is
stored is a rounded number (`Summed`).  So an update that reaches an increment of an integer keeps
the sum as an integer exactly if both are signed words (`integer_increment`).
-/

namespace QueryGateway.Document

open Json (Fields)
open Json.Fields (Blocked)
open Number (fits fitsSigned)

/-- What an increment of an integer by an integer stores. -/
inductive Summed (a b : Int) : Json → Prop
  | exact (words : fitsSigned a ∧ fitsSigned b) (word : fitsSigned (a + b)) :
    Summed a b (.int (a + b))
  | rounded {x : Binary64} (large : ¬(fitsSigned a ∧ fitsSigned b))
    (sum : (Binary64.ofInt a).add? (Binary64.ofInt b) = some x)
    (near : ((a + b) * (Binary64.one : Nat) - x.toInt).natAbs ≤ 2 ^ 13 * Binary64.one) :
    Summed a b (.num (.float x))

/-- Whether the sum of two signed words is none. -/
def Overflows (a b : Int) : Prop := (fitsSigned a ∧ fitsSigned b) ∧ ¬fitsSigned (a + b)

instance (a b : Int) : Decidable (Overflows a b) := inferInstanceAs (Decidable (_ ∧ _))

namespace Summed

variable {a b : Int} {sum : Json}

theorem eq_int_iff (h : Summed a b sum) {n : Int} :
    sum = .int n ↔ (fitsSigned a ∧ fitsSigned b) ∧ n = a + b := by
  cases h with
  | exact hwords hword =>
    have hint : Json.int (a + b) = .int n ↔ n = a + b := by
      rw [Json.int, Json.int, Json.num.injEq, Number.int.injEq, eq_comm]
    rw [hint, and_iff_right hwords]
  | rounded hlarge => exact iff_of_false nofun fun hwords => hlarge hwords.1

end Summed

theorem signed?_int (a : Int) : (Number.int a).signed? = if fitsSigned a then some a else none :=
  rfl

theorem increment_of_overflows {a b : Int} (h : Overflows a b) :
    increment (some (.int a)) (.int b) = none := by
  obtain ⟨⟨ha, hb⟩, hoverflow⟩ := h
  simp only [increment, Json.int, signed?_int, if_pos ha, if_pos hb]
  exact if_neg hoverflow

theorem increment_of_not_overflows {a b : Int} (ha : fits a) (hb : fits b) (h : ¬Overflows a b) :
    ∃ sum, increment (some (.int a)) (.int b) = some sum ∧ Summed a b sum := by
  by_cases hwords : fitsSigned a ∧ fitsSigned b
  · have hword : fitsSigned (a + b) := by_contra fun hnot => h ⟨hwords, hnot⟩
    refine ⟨.int (a + b), ?_, .exact hwords hword⟩
    simp only [increment, Json.int, signed?_int, if_pos hwords.1, if_pos hwords.2]
    exact if_pos hword
  · obtain ⟨x, hx, hnear⟩ := Binary64.exists_add?_ofInt (Number.natAbs_lt_of_fits ha)
      (Number.natAbs_lt_of_fits hb)
    refine ⟨.num (.float x), ?_, .rounded hwords hx hnear⟩
    have hfloat : ((Number.int a).toBinary64.add? (Number.int b).toBinary64).map
        (fun x => Json.num (.float x)) = some (.num (.float x)) := congrArg _ hx
    rw [not_and_or] at hwords
    simp only [increment, Json.int, signed?_int]
    rcases hwords with hlarge | hlarge
    · rw [if_neg hlarge]
      exact hfloat
    · rw [if_neg hlarge]
      cases fitsSigned a <;> exact hfloat

/-! ## In updates -/

section

variable {path : String} {a b : Int} {doc after : Fields}

/-- An increment of an integer is carried out unless it overflows or has to write behind what is
no object. -/
theorem inc_applies_iff (hat : (Json.obj doc).at? path = some (.int a)) (ha : fits a)
    (hb : fits b) : (∃ after, UpdateOperator.inc.apply path (.int b) doc = .ok after) ↔
      ¬Overflows a b ∧ ¬Blocked doc (Json.segments path) := by
  rw [UpdateOperator.applies_iff, or_iff_right UpdateOperator.noConfusion, hat]
  refine and_congr_left fun _ => ?_
  show (increment (some (.int a)) (.int b)).isSome ↔ _
  by_cases hoverflow : Overflows a b
  · rw [increment_of_overflows hoverflow]
    exact iff_of_false nofun (not_not.mpr hoverflow)
  · obtain ⟨sum, hsum, -⟩ := increment_of_not_overflows ha hb hoverflow
    rw [hsum]
    exact iff_of_true rfl hoverflow

theorem at?_of_inc (hat : (Json.obj doc).at? path = some (.int a)) (ha : fits a) (hb : fits b)
    (h : UpdateOperator.inc.apply path (.int b) doc = .ok after) :
    ∃ sum, (Json.obj after).at? path = some sum ∧ Summed a b sum := by
  obtain ⟨sum, hsum, hsummed⟩ :=
    increment_of_not_overflows ha hb ((inc_applies_iff hat ha hb).mp ⟨_, h⟩).1
  obtain ⟨value, hvalue, hset⟩ := (UpdateOperator.apply_eq_ok_iff UpdateOperator.noConfusion).mp h
  rw [hat] at hvalue
  obtain rfl : sum = value := Option.some.inj (hsum.symm.trans hvalue)
  have hwalk := Fields.walk_setPath (Json.segments_ne_nil path) hset []
  rw [List.append_nil, Json.walk_nil] at hwalk
  exact ⟨sum, hwalk, hsummed⟩

end

/-- An update that comes to an increment of an integer by an integer goes on, from a document with
the sum in place of the integer, unless the increment overflows or is blocked; then it fails.  The
sum is an integer exactly if both are signed words, and is then exact; otherwise it is a binary64
number near the sum. -/
theorem integer_increment {update : Json} {earlier later : List UpdateStep} {path : String}
    {a b : Int} {doc between : Fields}
    (hsteps : steps update = earlier ++ ⟨.inc, path, .int b⟩ :: later)
    (hearlier : Runs earlier doc between) (hat : (Json.obj between).at? path = some (.int a))
    (ha : fits a) (hb : fits b) :
    ((∃ made, UpdateOperator.inc.apply path (.int b) between = .ok made) ↔
      ¬Overflows a b ∧ ¬Blocked between (Json.segments path)) ∧
    (Overflows a b ∨ Blocked between (Json.segments path) →
      ∃ error, applyUpdate update doc = .error error) ∧
    ∀ after, applyUpdate update doc = .ok after →
      ∃ made sum, UpdateOperator.inc.apply path (.int b) between = .ok made ∧
        Runs later made after ∧ (Json.obj made).at? path = some sum ∧ Summed a b sum ∧
        ∀ n : Int, sum = .int n ↔ (fitsSigned a ∧ fitsSigned b) ∧ n = a + b := by
  have hstep (after : Fields) (hafter : applyUpdate update doc = .ok after) :
      ∃ made, UpdateOperator.inc.apply path (.int b) between = .ok made ∧
        Runs later made after := by
    have hruns := runs_steps hafter
    rw [hsteps, Runs.append_iff] at hruns
    obtain ⟨between', hearlier', hrest⟩ := hruns
    obtain rfl := hearlier'.unique hearlier
    exact (Runs.cons_iff.mp hrest).2
  have happlies := inc_applies_iff hat ha hb
  refine ⟨happlies, fun hstops => ?_, fun after hafter => ?_⟩
  · cases hresult : applyUpdate update doc with
    | error error => exact ⟨error, rfl⟩
    | ok after =>
      obtain ⟨made, hmade, -⟩ := hstep after hresult
      exact absurd hstops (not_or.mpr (happlies.mp ⟨made, hmade⟩))
  · obtain ⟨made, hmade, hlater⟩ := hstep after hafter
    obtain ⟨sum, hsum, hsummed⟩ := at?_of_inc hat ha hb hmade
    exact ⟨made, sum, hmade, hlater, hsum, hsummed, fun _ => hsummed.eq_int_iff⟩

/-- The least integer that is no signed word becomes a binary64 number by an increment. -/
theorem integer_increment_large :
    let update : Json := .obj [("$inc", .obj [("n", .int 1)])]
    let doc : Fields := [("n", .int 9223372036854775808)]
    ∃ after, applyUpdate update doc = .ok after ∧
      (Json.obj after).at? "n" = some (.num (.float (.ofInt 9223372036854775808))) := by
  intro update doc
  have hsteps : steps update = [] ++ ⟨.inc, "n", .int 1⟩ :: [] := rfl
  have hat : (Json.obj doc).at? "n" = some (.int 9223372036854775808) := rfl
  have hresult := (integer_increment hsteps (.nil doc) hat (by decide) (by decide)).2.2
  have hgoes : ∃ after, applyUpdate update doc = .ok after := by
    have hisOk : (applyUpdate update doc).isOk = true := by decide +kernel
    cases hafter : applyUpdate update doc with
    | ok after => exact ⟨after, rfl⟩
    | error error => rw [hafter] at hisOk; cases hisOk
  obtain ⟨after, hafter⟩ := hgoes
  obtain ⟨made, sum, -, hlater, hsum, hsummed, -⟩ := hresult after hafter
  obtain rfl := Runs.nil_iff.mp hlater
  refine ⟨made, hafter, hsum.trans (congrArg some ?_)⟩
  cases hsummed with
  | exact hwords => exact absurd hwords (by decide)
  | rounded _ hadd =>
    have hx : (Binary64.ofInt 9223372036854775808).add? (.ofInt 1) =
        some (.ofInt 9223372036854775808) := by decide +kernel
    rw [Option.some.inj (hadd.symm.trans hx)]

end QueryGateway.Document
