import Mathlib.Data.List.TakeWhile
import QueryGateway.Expression.Reader
import QueryGateway.Number.Text
import QueryGateway.Proofs.Text.Blank

/-!
Numerals in expressions.

A numeral holds only characters of numerals, so it is neither a literal nor a name
(`isNumeralChar_of_readNumber?`).  The text of an integer is a numeral of it
(`readNumber?_text`).
-/

namespace QueryGateway.Expr

/-- Whether a character can stand in a numeral. -/
def isNumeralChar (c : Char) : Bool := c.isDigit || ['-', '+', '.', 'e', 'E'].contains c

theorem toNat_of_isDigit {c : Char} (h : c.isDigit) : 48 ≤ c.toNat ∧ c.toNat ≤ 57 := by
  rw [Char.isDigit, Bool.and_eq_true, decide_eq_true_eq, decide_eq_true_eq] at h
  exact ⟨UInt32.le_iff_toNat_le.mp h.1, UInt32.le_iff_toNat_le.mp h.2⟩

theorem isBlank_of_isNumeralChar {c : Char} (h : isNumeralChar c) : Text.isBlank c = false := by
  rw [isNumeralChar, Bool.or_eq_true] at h
  rcases h with hdigit | hmark
  · have := toNat_of_isDigit hdigit
    exact Text.isBlank_eq_false_of_lt (by omega) (by omega)
  · have hmarks : ∀ c ∈ ['-', '+', '.', 'e', 'E'], Text.isBlank c = false :=
      List.all_iff_forall_prop.mp (by decide)
    exact hmarks c (List.contains_iff_mem.mp hmark)

/-- Whether a text goes on as `rest` after characters of a numeral. -/
def Leads (s rest : List Char) : Prop :=
  ∃ front, s = front ++ rest ∧ ∀ c ∈ front, isNumeralChar c

theorem Leads.refl (s : List Char) : Leads s s := ⟨[], rfl, nofun⟩

theorem Leads.cons {c : Char} (h : isNumeralChar c) (s : List Char) : Leads (c :: s) s :=
  ⟨[c], rfl, fun _ hd => List.mem_singleton.mp hd ▸ h⟩

theorem Leads.trans {s t u : List Char} (hst : Leads s t) (htu : Leads t u) : Leads s u := by
  obtain ⟨front, rfl, hfront⟩ := hst
  obtain ⟨more, rfl, hmore⟩ := htu
  refine ⟨front ++ more, (List.append_assoc ..).symm, fun c hc => ?_⟩
  exact (List.mem_append.mp hc).elim (hfront c) (hmore c)

theorem leads_takeDigits {s digits rest : List Char}
    (h : Decimal.takeDigits s = (digits, rest)) : Leads s rest := by
  obtain ⟨rfl, rfl⟩ := Prod.mk.inj h
  refine ⟨s.takeWhile Char.isDigit, List.takeWhile_append_dropWhile.symm, fun c hc => ?_⟩
  rw [isNumeralChar, List.mem_takeWhile_imp hc, Bool.true_or]

theorem leads_takeExponent {s rest : List Char} {exponent : Int}
    (h : Decimal.takeExponent s = some (exponent, rest)) : Leads s rest := by
  rw [Decimal.takeExponent.eq_def] at h
  split at h
  · rename_i c s
    split at h
    · rename_i hc
      have hmark : isNumeralChar c := by rcases hc with rfl | rfl <;> rfl
      split at h
      rename_i negative unsigned hsign
      have hs : Leads s unsigned := by
        split at hsign
        · obtain ⟨-, rfl⟩ := Prod.mk.inj hsign
          exact .cons rfl _
        · obtain ⟨-, rfl⟩ := Prod.mk.inj hsign
          exact .cons rfl _
        · obtain ⟨-, rfl⟩ := Prod.mk.inj hsign
          exact .refl _
      split at h
      rename_i digits others hdigits
      split at h
      · cases h
      · obtain ⟨-, rfl⟩ := Prod.mk.inj (Option.some.inj h)
        exact (Leads.cons hmark s).trans (hs.trans (leads_takeDigits hdigits))
    · obtain ⟨-, rfl⟩ := Prod.mk.inj (Option.some.inj h)
      exact .refl _
  · obtain ⟨-, rfl⟩ := Prod.mk.inj (Option.some.inj h)
    exact .refl _

theorem leads_decimal? {s : List Char} {d : Decimal} (h : decimal? s = some d) : Leads s [] := by
  rw [decimal?.eq_def] at h
  split at h
  rename_i negative unsigned hsign
  have hs : Leads s unsigned := by
    split at hsign
    · obtain ⟨-, rfl⟩ := Prod.mk.inj hsign
      exact .cons rfl _
    · obtain ⟨-, rfl⟩ := Prod.mk.inj hsign
      exact .refl _
  split at h
  rename_i whole rest hwhole
  split at h
  rename_i fraction after hfraction
  have hpoint : Leads rest after := by
    split at hfraction
    · exact (Leads.cons rfl _).trans (leads_takeDigits hfraction)
    · obtain ⟨-, rfl⟩ := Prod.mk.inj hfraction
      exact .refl _
  split at h
  · cases h
  · obtain ⟨⟨exponent, last⟩, htaken, h⟩ := Option.bind_eq_some_iff.mp h
    simp only at h
    split at h
    · rename_i hlast
      rw [List.isEmpty_iff.mp hlast] at htaken
      exact hs.trans ((leads_takeDigits hwhole).trans (hpoint.trans (leads_takeExponent htaken)))
    · cases h

/-- A numeral is not empty, and holds only characters of numerals. -/
theorem isNumeralChar_of_readNumber? {s : List Char} {n : Number} (h : readNumber? s = some n) :
    s ≠ [] ∧ ∀ c ∈ s, isNumeralChar c := by
  obtain ⟨d, hd, -⟩ := Option.bind_eq_some_iff.mp h
  obtain ⟨front, hs, hfront⟩ := leads_decimal? hd
  rw [List.append_nil] at hs
  refine ⟨?_, hs ▸ hfront⟩
  rintro rfl
  cases hd

/-! ## Integers -/

theorem takeDigits_eq_self {digits : List Char} (h : ∀ c ∈ digits, c.isDigit) :
    Decimal.takeDigits digits = (digits, []) :=
  congrArg₂ Prod.mk (List.takeWhile_eq_self_iff.mpr h) (List.dropWhile_eq_nil_iff.mpr h)

theorem digitsValue_toDigits (n : Nat) : Decimal.digitsValue (Nat.toDigits 10 n) = n := by
  rw [Decimal.digitsValue]
  simp only [Nat.mul_comm _ 10]
  exact Nat.ofDigitChars_toDigits (by decide) (by decide)

/-- Digits are a decimal numeral by themselves, and so they are after a minus sign. -/
theorem decimal?_digits {digits : List Char} (hne : digits ≠ []) (h : ∀ c ∈ digits, c.isDigit) :
    decimal? digits = some { negative := false, whole := digits, fraction := [], exponent := 0 } ∧
      decimal? ('-' :: digits) =
        some { negative := true, whole := digits, fraction := [], exponent := 0 } := by
  constructor
  · cases digits with
    | nil => exact absurd rfl hne
    | cons c rest =>
      have hminus : c ≠ '-' := by
        rintro rfl
        exact absurd (h '-' List.mem_cons_self) (by decide)
      rw [decimal?.eq_def]
      split
      rename_i negative unsigned hsign
      split at hsign
      · rename_i heq
        exact absurd (List.cons.inj heq).1 hminus
      · obtain ⟨rfl, rfl⟩ := Prod.mk.inj hsign
        rw [takeDigits_eq_self h]
        rfl
  · rw [decimal?.eq_def]
    simp only [takeDigits_eq_self h]
    simp [hne]
    rfl

/-- An integer that fits in a signed word is read back from its text. -/
theorem readNumber?_text {n : Int} (h : Number.fitsSigned n) :
    readNumber? (Number.int n).text.toList = some (.int n) := by
  have hdigits : ∀ m : Nat, ∀ c ∈ Nat.toDigits 10 m, c.isDigit :=
    fun m c hc => Nat.isDigit_of_mem_toDigits (by decide) (by decide) hc
  cases n with
  | ofNat m =>
    have htext : (Number.int (Int.ofNat m)).text.toList = Nat.toDigits 10 m := Nat.toList_repr
    rw [htext, readNumber?, (decimal?_digits Nat.toDigits_ne_nil (hdigits m)).1]
    show (if (Nat.toDigits 10 m).all Char.isDigit ∧
        Number.fitsSigned (Decimal.digitsValue (Nat.toDigits 10 m)) then
      some (Number.int (Decimal.digitsValue (Nat.toDigits 10 m))) else _) = _
    rw [digitsValue_toDigits, if_pos ⟨List.all_eq_true.mpr (hdigits m), h⟩]
    rfl
  | negSucc m =>
    have htext : (Number.int (Int.negSucc m)).text.toList = '-' :: Nat.toDigits 10 (m + 1) := by
      show ("-" ++ (m + 1).repr).toList = _
      rw [String.toList_append, Nat.toList_repr]
      rfl
    rw [htext, readNumber?, (decimal?_digits Nat.toDigits_ne_nil (hdigits (m + 1))).2]
    show (if (Nat.toDigits 10 (m + 1)).all Char.isDigit ∧
        Number.fitsSigned (-(Decimal.digitsValue (Nat.toDigits 10 (m + 1)) : Int)) then
      some (Number.int (-(Decimal.digitsValue (Nat.toDigits 10 (m + 1)) : Int))) else _) = _
    rw [digitsValue_toDigits, if_pos ⟨List.all_eq_true.mpr (hdigits (m + 1)), h⟩]
    rfl

end QueryGateway.Expr
