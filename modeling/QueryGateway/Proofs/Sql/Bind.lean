import Mathlib.Algebra.Group.Int.Defs
import QueryGateway.Proofs.Json.Equality
import QueryGateway.Proofs.Number.Rounding
import QueryGateway.Proofs.Traversal
import QueryGateway.Sql.Bind

/-!
Values that reach a server as the same parameter.

Parameters keep values apart, of one kind and of different kinds, but for two things: there is one
null, and integers that are no signed words are bound as their nearest binary64 numbers, so they
can meet other integers and binary64 numbers there (`ofValue_same_iff`).
-/

namespace QueryGateway

namespace Number

/-- Different numbers that are bound as the same one. -/
inductive Merged : Number → Number → Prop
  | integers {a b : Int} (large : ¬fitsSigned a) (larger : ¬fitsSigned b) (collide : Collide a b) :
    Merged (.int a) (.int b)
  | integerFloat {a : Int} {x : Binary64} (large : ¬fitsSigned a)
    (nearest : (Binary64.ofInt a).toInt = x.toInt) : Merged (.int a) (.float x)
  | floatInteger {a : Int} {x : Binary64} (large : ¬fitsSigned a)
    (nearest : (Binary64.ofInt a).toInt = x.toInt) : Merged (.float x) (.int a)

theorem Merged.same_eq_false {m n : Number} (h : Merged m n) : m.same n = false := by
  cases h with
  | integers _ _ collide => exact beq_eq_false_iff_ne.mpr collide.1
  | integerFloat => rfl
  | floatInteger => rfl

/-- An integer that a JSON text can hold is a signed word or larger than those. -/
theorem le_of_fits {a : Int} (h : fits a) (hlarge : ¬fitsSigned a) : 2 ^ 63 ≤ a := by
  rw [fits, Bool.or_eq_true, or_iff_right hlarge] at h
  simp only [fitsUnsigned, fitsSigned, Bool.and_eq_true, decide_eq_true_eq] at h hlarge
  have h63 : Int.pow 2 63 = 9223372036854775808 := rfl
  omega

theorem Merged.large_and_near {a b : Int} (h : Merged (.int a) (.int b)) (ha : fits a)
    (hb : fits b) : 2 ^ 63 ≤ a ∧ 2 ^ 63 ≤ b ∧ (a - b).natAbs ≤ 2 ^ 11 := by
  cases h with
  | integers large larger collide =>
    exact ⟨le_of_fits ha large, le_of_fits hb larger, collide.near ha hb⟩

end Number

namespace Value

/-- Equality of values; the fields of objects can stand in any order. -/
def same : Value → Value → Bool
  | .undefined, .undefined => true
  | .json v, .json w => v.same w
  | .instant t, .instant u => t == u
  | _, _ => false

end Value

namespace Sql

/-- What a value is, or a parameter. -/
inductive Kind where
  | null
  | boolean
  | number
  | text
  | array
  | object
  | instant

namespace Kind

def ofJson : Json → Kind
  | .null => .null
  | .bool _ => .boolean
  | .num _ => .number
  | .str _ => .text
  | .arr _ => .array
  | .obj _ => .object

def ofValue : Value → Kind
  | .undefined => .null
  | .json v => .ofJson v
  | .instant _ => .instant

def ofBind : Bind → Kind
  | .null => .null
  | .bool _ => .boolean
  | .int _ | .float _ => .number
  | .text _ => .text
  | .textArray _ => .array
  | .json v => .ofJson v
  | .timestamp _ => .instant

end Kind

namespace Bind

/-- Equality of parameters. -/
def same : Bind → Bind → Bool
  | .null, .null => true
  | .bool a, .bool b => a == b
  | .int a, .int b => a == b
  | .float x, .float y => x.toInt == y.toInt
  | .text s, .text t => s == t
  | .textArray a, .textArray b => a == b
  | .json v, .json w => v.same w
  | .timestamp t, .timestamp u => t == u
  | _, _ => false

theorem ofJson_eq_of_same {v w : Json} (h : v.same w = true) : Kind.ofJson v = Kind.ofJson w := by
  cases v <;> cases w <;> first | rfl | cases h

theorem ofValue_eq_of_same {v w : Value} (h : v.same w = true) :
    Kind.ofValue v = Kind.ofValue w := by
  cases v with
  | json v =>
    cases w with
    | json w => exact ofJson_eq_of_same h
    | _ => cases h
  | _ => cases w <;> first | rfl | cases h

theorem ofBind_eq_of_same {b c : Bind} (h : b.same c = true) : Kind.ofBind b = Kind.ofBind c := by
  cases b with
  | json v =>
    cases c with
    | json w => exact ofJson_eq_of_same h
    | _ => cases h
  | _ => cases c <;> first | rfl | cases h

theorem ofValue_num (n : Number) : ofValue (.json (.num n)) =
    match n.signed? with
    | some i => .int i
    | none => .float n.toBinary64 := rfl

theorem ofValue_arr (items : List Json) : ofValue (.json (.arr items)) =
    match strings? items with
    | some values => .textArray values
    | none => .json (.arr items) := rfl

/-- A parameter is of the kind of its value. -/
theorem ofBind_ofValue (v : Value) : Kind.ofBind (ofValue v) = Kind.ofValue v := by
  cases v with
  | undefined | instant _ => rfl
  | json v =>
    cases v with
    | num n =>
      rw [ofValue_num]
      cases n.signed? <;> rfl
    | arr items =>
      rw [ofValue_arr]
      cases strings? items <;> rfl
    | _ => rfl

theorem isNullish_iff {v : Value} : v.isNullish = true ↔ Kind.ofValue v = .null := by
  cases v with
  | undefined => exact iff_of_true rfl rfl
  | instant _ => exact iff_of_false Bool.false_ne_true (by rintro ⟨⟩)
  | json v =>
    cases v with
    | null => exact iff_of_true rfl rfl
    | _ => exact iff_of_false Bool.false_ne_true (by rintro ⟨⟩)

theorem ofValue_of_isNullish {v : Value} (h : v.isNullish = true) : ofValue v = .null := by
  cases v with
  | undefined => rfl
  | instant _ => cases h
  | json v =>
    cases v with
    | null => rfl
    | _ => cases h

/-! ## Numbers -/

theorem ofValue_int (a : Int) : ofValue (.json (.num (.int a))) =
    if Number.fitsSigned a then .int a else .float (.ofInt a) := by
  rw [ofValue_num, Number.signed?]
  by_cases h : Number.fitsSigned a = true
  · rw [if_pos h, if_pos h]
  · rw [if_neg h, if_neg h]
    rfl

/-- Numbers reach a server as the same one if they are equal or merged. -/
theorem same_ofValue_num_iff (m n : Number) :
    (ofValue (.json (.num m))).same (ofValue (.json (.num n))) = true ↔
      m.same n = true ∨ Number.Merged m n := by
  cases m with
  | int a =>
    cases n with
    | int b =>
      rw [ofValue_int, ofValue_int]
      have hsame : (Number.int a).same (.int b) = true ↔ a = b := beq_iff_eq
      rw [hsame]
      by_cases ha : Number.fitsSigned a = true
      · rw [if_pos ha]
        have hmerged : ¬Number.Merged (.int a) (.int b) := by
          rintro ⟨large, -, -⟩
          exact large ha
        rw [or_iff_left hmerged]
        by_cases hb : Number.fitsSigned b = true
        · rw [if_pos hb]
          exact beq_iff_eq
        · rw [if_neg hb]
          exact iff_of_false Bool.false_ne_true fun h => hb (h ▸ ha)
      · rw [if_neg ha]
        by_cases hb : Number.fitsSigned b = true
        · rw [if_pos hb]
          refine iff_of_false Bool.false_ne_true ?_
          rintro (rfl | ⟨-, larger, -⟩)
          · exact ha hb
          · exact larger hb
        · rw [if_neg hb]
          show ((Binary64.ofInt a).toInt == (Binary64.ofInt b).toInt) = true ↔ _
          rw [beq_iff_eq]
          constructor
          · intro h
            by_cases heq : a = b
            · exact .inl heq
            · exact .inr (.integers ha hb ⟨heq, h⟩)
          · rintro (rfl | ⟨-, -, collide⟩)
            · rfl
            · exact collide.2
    | float y =>
      rw [ofValue_int]
      by_cases ha : Number.fitsSigned a = true
      · rw [if_pos ha]
        refine iff_of_false Bool.false_ne_true ?_
        rintro (h | h)
        · cases h
        · cases h with
          | integerFloat large => exact large ha
      · rw [if_neg ha]
        show ((Binary64.ofInt a).toInt == y.toInt) = true ↔ _
        rw [beq_iff_eq]
        refine ⟨fun h => .inr (.integerFloat ha h), ?_⟩
        rintro (h | h)
        · cases h
        · cases h with
          | integerFloat _ nearest => exact nearest
  | float x =>
    cases n with
    | int b =>
      rw [ofValue_int]
      by_cases hb : Number.fitsSigned b = true
      · rw [if_pos hb]
        refine iff_of_false Bool.false_ne_true ?_
        rintro (h | h)
        · cases h
        · cases h with
          | floatInteger large => exact large hb
      · rw [if_neg hb]
        show (x.toInt == (Binary64.ofInt b).toInt) = true ↔ _
        rw [beq_iff_eq]
        refine ⟨fun h => .inr (.floatInteger hb h.symm), ?_⟩
        rintro (h | h)
        · cases h
        · cases h with
          | floatInteger _ nearest => exact nearest.symm
    | float y =>
      show (x.toInt == y.toInt) = true ↔ _
      refine ⟨.inl, ?_⟩
      rintro (h | h)
      · exact h
      · cases h

/-! ## Arrays -/

theorem strings?_eq_of_sameItems {items others : List Json}
    (h : Json.sameItems items others = true) : strings? items = strings? others := by
  induction items generalizing others with
  | nil =>
    cases others with
    | nil => rfl
    | cons => cases h
  | cons item rest ih =>
    cases others with
    | nil => cases h
    | cons other others =>
      rw [Json.sameItems, Bool.and_eq_true] at h
      have hrest := ih h.2
      rw [strings?, strings?] at hrest ⊢
      rw [List.mapM_cons, List.mapM_cons, Json.str?_eq_of_same h.1, hrest]

/-- Arrays reach a server as the same one if they are equal. -/
theorem same_ofValue_arr_iff (items others : List Json) :
    (ofValue (.json (.arr items))).same (ofValue (.json (.arr others))) = true ↔
      (Json.arr items).same (.arr others) = true := by
  rw [ofValue_arr, ofValue_arr, Json.same]
  have hstrings (h : Json.sameItems items others = true) : strings? items = strings? others :=
    strings?_eq_of_sameItems h
  cases hitems : strings? items with
  | none =>
    cases hothers : strings? others with
    | none => rfl
    | some texts =>
      refine iff_of_false Bool.false_ne_true fun h => ?_
      cases hitems.symm.trans ((hstrings h).trans hothers)
  | some values =>
    cases hothers : strings? others with
    | none =>
      refine iff_of_false Bool.false_ne_true fun h => ?_
      cases hitems.symm.trans ((hstrings h).trans hothers)
    | some texts =>
      show (values == texts) = true ↔ _
      rw [beq_iff_eq]
      constructor
      · rintro rfl
        rw [Json.mapM_str?_eq_some_iff.mp hitems, Json.mapM_str?_eq_some_iff.mp hothers]
        exact Json.sameItems_map_str values
      · intro h
        exact Option.some.inj (hitems.symm.trans ((hstrings h).trans hothers))

/-! ## All values -/

/-- Values of one kind, other than numbers and null, are kept as they are. -/
theorem same_ofValue_iff_of_kind {v w : Value} (hkind : Kind.ofValue v = Kind.ofValue w)
    (hnull : ¬v.isNullish = true) (hnumber : ¬∃ m n, v = .json (.num m) ∧ w = .json (.num n)) :
    (ofValue v).same (ofValue w) = true ↔ v.same w = true := by
  cases v with
  | undefined => exact absurd rfl hnull
  | instant t =>
    cases w with
    | undefined => cases hkind
    | instant u => rfl
    | json w => cases w <;> cases hkind
  | json v =>
    cases w with
    | undefined => cases v <;> first | exact absurd rfl hnull | cases hkind
    | instant u => cases v <;> cases hkind
    | json w =>
      cases v with
      | null => exact absurd rfl hnull
      | num m =>
        cases w with
        | num n => exact absurd ⟨m, n, rfl, rfl⟩ hnumber
        | _ => cases hkind
      | arr items =>
        cases w with
        | arr others => exact same_ofValue_arr_iff items others
        | _ => cases hkind
      | _ =>
        cases w <;> first | rfl | cases hkind

/-- Two values reach a server as the same parameter exactly if they are equal, both null or
undefined, or numbers that are merged: an integer that is no signed word, and another one or a
binary64 number, with the same nearest binary64 number.  Merged numbers are not equal, and the
integers among them that JSON texts hold are large and near each other. -/
theorem ofValue_same_iff (v w : Value) :
    ((ofValue v).same (ofValue w) = true ↔
      v.same w = true ∨ (v.isNullish = true ∧ w.isNullish = true) ∨
        ∃ m n, v = .json (.num m) ∧ w = .json (.num n) ∧ Number.Merged m n) ∧
    (∀ m n, Number.Merged m n → m.same n = false) ∧
    ∀ a b, Number.fits a → Number.fits b → Number.Merged (.int a) (.int b) →
      2 ^ 63 ≤ a ∧ 2 ^ 63 ≤ b ∧ (a - b).natAbs ≤ 2 ^ 11 := by
  refine ⟨?_, fun m n h => h.same_eq_false, fun a b ha hb h => h.large_and_near ha hb⟩
  by_cases hkind : Kind.ofValue v = Kind.ofValue w
  · by_cases hnull : v.isNullish = true
    · have hnull' : w.isNullish = true := isNullish_iff.mpr (hkind ▸ isNullish_iff.mp hnull)
      rw [ofValue_of_isNullish hnull, ofValue_of_isNullish hnull']
      exact iff_of_true rfl (.inr (.inl ⟨hnull, hnull'⟩))
    have hnullish : ¬(v.isNullish = true ∧ w.isNullish = true) := fun h => hnull h.1
    rw [or_iff_right hnullish]
    by_cases hnumber : ∃ m n, v = .json (.num m) ∧ w = .json (.num n)
    · obtain ⟨m, n, rfl, rfl⟩ := hnumber
      rw [same_ofValue_num_iff]
      refine or_congr Iff.rfl ⟨fun h => ⟨m, n, rfl, rfl, h⟩, ?_⟩
      rintro ⟨m', n', hm, hn, h⟩
      cases hm
      cases hn
      exact h
    · have hmerged : ¬∃ m n, v = .json (.num m) ∧ w = .json (.num n) ∧ Number.Merged m n := by
        rintro ⟨m, n, hm, hn, -⟩
        exact hnumber ⟨m, n, hm, hn⟩
      rw [or_iff_left hmerged]
      exact same_ofValue_iff_of_kind hkind hnull hnumber
  · -- Nothing that makes two parameters equal leads from one kind to another.
    refine iff_of_false (fun h => hkind ?_) fun h => hkind ?_
    · rw [← ofBind_ofValue v, ← ofBind_ofValue w]
      exact ofBind_eq_of_same h
    · rcases h with h | ⟨hv, hw⟩ | ⟨m, n, rfl, rfl, -⟩
      · exact ofValue_eq_of_same h
      · rw [isNullish_iff.mp hv, isNullish_iff.mp hw]
      · rfl

/-- The least integer that is no signed word and the next one reach a server as the same number. -/
theorem ofValue_same_iff_neighbours :
    let v : Value := .json (.num (.int 9223372036854775808))
    let w : Value := .json (.num (.int 9223372036854775809))
    Number.Merged (.int 9223372036854775808) (.int 9223372036854775809) ∧
      v.same w = false ∧ (ofValue v).same (ofValue w) = true := by
  intro v w
  have hmerged : Number.Merged (.int 9223372036854775808) (.int 9223372036854775809) :=
    .integers (by decide) (by decide) (by decide +kernel)
  obtain ⟨hsame, hdiffer, -⟩ := ofValue_same_iff v w
  exact ⟨hmerged, hdiffer _ _ hmerged, hsame.mpr (.inr (.inr ⟨_, _, rfl, rfl, hmerged⟩))⟩

end Bind
end Sql
end QueryGateway
