import Mathlib.Data.Bool.AllAny
import Mathlib.Data.List.DropRight
import QueryGateway.Text.Blank

/-!
Trimming a text.

A text without blanks at its start keeps that property when blanks at its end go, because
what is left is a prefix of it.  So trimming twice is trimming once (`trim_trim`), and a text
is its trimmed form between blanks (`exists_padding`).
-/

namespace QueryGateway.Text

theorem isBlank_eq_false_of_lt {c : Char} (hlow : 0x20 < c.toNat) (hhigh : c.toNat < 0x85) :
    isBlank c = false := by
  simp only [isBlank, blankRanges, List.any_cons, List.any_nil, Bool.or_false, Bool.or_eq_false_iff,
    Bool.and_eq_false_iff, decide_eq_false_iff_not]
  omega

theorem allBlank_nil : allBlank [] := rfl

theorem allBlank_cons_iff {c : Char} {rest : List Char} :
    allBlank (c :: rest) ↔ isBlank c ∧ allBlank rest := by
  rw [allBlank, List.all_cons, Bool.and_eq_true]
  rfl

theorem allBlank_append {s t : List Char} (hs : allBlank s) (ht : allBlank t) :
    allBlank (s ++ t) := by
  rw [allBlank, List.all_append]
  exact Bool.and_eq_true_iff.mpr ⟨hs, ht⟩

theorem trimStart_trimStart (s : List Char) : trimStart (trimStart s) = trimStart s :=
  List.dropWhile_idempotent isBlank s

theorem trimEnd_trimEnd (s : List Char) : trimEnd (trimEnd s) = trimEnd s :=
  List.rdropWhile_idempotent isBlank s

theorem trimEnd_isPrefix (s : List Char) : trimEnd s <+: s :=
  List.rdropWhile_prefix isBlank s

theorem head_trimStart_not_blank {s rest : List Char} {c : Char}
    (h : trimStart s = c :: rest) : isBlank c = false := by
  have hself := trimStart_trimStart s
  rw [h, trimStart, List.dropWhile_cons] at hself
  by_cases hc : isBlank c = true
  · rw [if_pos hc] at hself
    have hlength := (List.dropWhile_sublist isBlank (l := rest)).length_le
    rw [hself, List.length_cons] at hlength
    omega
  · exact Bool.eq_false_iff.mpr hc

theorem trimStart_trim (s : List Char) : trimStart (trim s) = trim s := by
  rw [trim]
  cases ht : trimEnd (trimStart s) with
  | nil => rfl
  | cons c rest =>
    obtain ⟨ending, hending⟩ := trimEnd_isPrefix (trimStart s)
    rw [ht, List.cons_append] at hending
    rw [trimStart, List.dropWhile_cons, head_trimStart_not_blank hending.symm]
    rfl

theorem trim_trim (s : List Char) : trim (trim s) = trim s := by
  rw [trim, trimStart_trim, trim, trimEnd_trimEnd]

theorem trimStart_append {left : List Char} (hleft : allBlank left) (s : List Char) :
    trimStart (left ++ s) = trimStart s :=
  List.dropWhile_append_of_pos (List.all_eq_true.mp hleft)

theorem trimEnd_append {right : List Char} (hright : allBlank right) (s : List Char) :
    trimEnd (s ++ right) = trimEnd s := by
  rw [trimEnd, trimEnd, List.reverse_append, List.dropWhile_append_of_pos fun c hc =>
    List.all_eq_true.mp hright c (List.mem_reverse.mp hc)]

/-- Blanks around a text do not matter to its trimmed form. -/
theorem trim_padded {left right : List Char} (hleft : allBlank left) (hright : allBlank right)
    (s : List Char) : trim (left ++ s ++ right) = trim s := by
  rw [List.append_assoc, trim, trimStart_append hleft, trimStart, List.dropWhile_append]
  by_cases hs : (s.dropWhile isBlank).isEmpty
  · have hblank : right.dropWhile isBlank = [] :=
      List.dropWhile_eq_nil_iff.mpr (List.all_eq_true.mp hright)
    rw [if_pos hs, hblank, trim, trimStart, List.isEmpty_iff.mp hs]
  · rw [if_neg hs, trimEnd_append hright]
    rfl

theorem trim_eq_self {s : List Char} (hfirst : ∀ c, s.head? = some c → isBlank c = false)
    (hlast : ∀ c, s.getLast? = some c → isBlank c = false) : trim s = s := by
  have hstart : trimStart s = s := by
    cases s with
    | nil => rfl
    | cons c rest => rw [trimStart, List.dropWhile_cons, hfirst c rfl]; rfl
  rw [trim, hstart]
  refine List.rdropWhile_eq_self_iff.mpr fun hs => ?_
  rw [hlast _ (List.getLast?_eq_some_getLast hs)]
  exact Bool.false_ne_true

/-- Whether a text has blanks neither at its start nor at its end, and is not empty. -/
def Solid (s : List Char) : Prop :=
  (∃ c, s.head? = some c ∧ isBlank c = false) ∧ ∃ c, s.getLast? = some c ∧ isBlank c = false

theorem Solid.ne_nil {s : List Char} (h : Solid s) : s ≠ [] := by
  rintro rfl
  obtain ⟨⟨c, hc, -⟩, -⟩ := h
  cases hc

theorem Solid.trim_eq {s : List Char} (h : Solid s) : trim s = s := by
  obtain ⟨⟨first, hfirst, hf⟩, last, hlast, hl⟩ := h
  refine trim_eq_self (fun c hc => ?_) (fun c hc => ?_)
  · rwa [← Option.some.inj (hfirst.symm.trans hc)]
  · rwa [← Option.some.inj (hlast.symm.trans hc)]

theorem solid_of_forall {s : List Char} (hne : s ≠ []) (h : ∀ c ∈ s, isBlank c = false) :
    Solid s :=
  ⟨⟨s.head hne, List.head?_eq_some_head hne, h _ (List.head_mem hne)⟩,
    s.getLast hne, List.getLast?_eq_some_getLast hne, h _ (List.getLast_mem hne)⟩

theorem Solid.append {s t : List Char} (hs : Solid s) (middle : List Char) (ht : Solid t) :
    Solid (s ++ middle ++ t) := by
  obtain ⟨⟨first, hfirst, hf⟩, -⟩ := hs
  obtain ⟨-, last, hlast, hl⟩ := ht
  refine ⟨⟨first, ?_, hf⟩, last, ?_, hl⟩
  · rw [List.append_assoc, List.head?_append, hfirst]
    rfl
  · rw [List.getLast?_append, hlast]
    rfl

/-- A text is its trimmed form between blanks. -/
theorem exists_padding (s : List Char) :
    ∃ left right, allBlank left ∧ allBlank right ∧ s = left ++ trim s ++ right := by
  refine ⟨s.takeWhile isBlank, (trimStart s).rtakeWhile isBlank,
    List.all_eq_true.mpr fun c hc => List.mem_takeWhile_imp hc,
    List.all_eq_true.mpr fun c hc => List.mem_rtakeWhile_imp hc, ?_⟩
  have hend : trim s ++ (trimStart s).rtakeWhile isBlank = trimStart s :=
    List.rdropWhile_append_rtakeWhile
  rw [List.append_assoc, hend]
  exact List.takeWhile_append_dropWhile.symm

end QueryGateway.Text
