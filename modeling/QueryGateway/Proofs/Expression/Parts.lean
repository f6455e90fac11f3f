import Mathlib.Data.List.TakeWhile
import QueryGateway.Proofs.Expression.Grammar
import QueryGateway.Proofs.Text.Split

/-!
The parts of an expression.

Each reader of a part accepts the texts of that part and no others: the content of a literal,
a reference, and a call with its name, its closing parenthesis and the texts of its arguments.
-/

namespace QueryGateway

theorem Namespace.named?_eq_some_iff {name : String} {source : Namespace} :
    named? name = some source ↔ name = source.name := by
  constructor
  · intro h
    rw [named?] at h
    have hname := List.find?_some h
    exact (beq_iff_eq.mp hname).symm
  · rintro rfl
    cases source <;> rfl

theorem Builtin.named?_eq_some_iff {name : String} {function : Builtin} :
    named? name = some function ↔ name = function.name := by
  constructor
  · intro h
    rw [named?] at h
    have hname := List.find?_some h
    exact (beq_iff_eq.mp hname).symm
  · rintro rfl
    cases function <;> rfl

namespace Expr

open Text

/-! ## Literals -/

theorem literalContent_inside {c : Char} {rest : List Char} (quote : c ≠ '\'')
    (escape : ¬(c = '\\' ∧ rest.head? = some '\'')) :
    literalContent .inside (c :: rest) =
      (literalContent .inside rest).map fun p => (c :: p.1, p.2) := by
  rw [literalContent, if_neg fun h => quote h.2]
  simp only [Quoted.step quote escape]
  rfl

theorem literalContent_escaped (rest : List Char) :
    literalContent .inside ('\\' :: '\'' :: rest) =
      (literalContent .inside rest).map fun p => ('\'' :: p.1, p.2) := by
  show (Option.map _ (literalContent .escaped ('\'' :: rest))) = _
  show (Option.map _ (Option.map _ (literalContent .inside rest))) = _
  rw [Option.map_map]
  rfl

theorem Quoted.read {text content : List Char} (h : Quoted text content) (after : List Char) :
    literalContent .inside (text ++ after) = some (content, after) := by
  induction h with
  | closed => rfl
  | escaped rest ih => rw [List.cons_append, List.cons_append, literalContent_escaped, ih]; rfl
  | plain quote escape rest ih =>
    rw [List.cons_append, literalContent_inside quote (rest.head?_append after ▸ escape), ih]
    rfl

theorem exists_quoted {s content after : List Char}
    (h : literalContent .inside s = some (content, after)) :
    ∃ text, Quoted text content ∧ s = text ++ after := by
  match s with
  | [] => cases h
  | c :: rest =>
    by_cases hquote : c = '\''
    · rw [literalContent, if_pos ⟨rfl, hquote⟩] at h
      obtain ⟨rfl, rfl⟩ := Prod.mk.inj (Option.some.inj h)
      exact ⟨['\''], .closed, hquote ▸ rfl⟩
    · by_cases hescape : c = '\\' ∧ rest.head? = some '\''
      · obtain ⟨rfl, hhead⟩ := hescape
        obtain ⟨others, rfl⟩ := List.head?_eq_some_iff.mp hhead
        rw [literalContent_escaped] at h
        obtain ⟨⟨content', after'⟩, hread, heq⟩ := Option.map_eq_some_iff.mp h
        obtain ⟨rfl, rfl⟩ := Prod.mk.inj heq
        obtain ⟨text, hquoted, rfl⟩ := exists_quoted hread
        exact ⟨_, .escaped hquoted, rfl⟩
      · rw [literalContent_inside hquote hescape] at h
        obtain ⟨⟨content', after'⟩, hread, heq⟩ := Option.map_eq_some_iff.mp h
        obtain ⟨rfl, rfl⟩ := Prod.mk.inj heq
        obtain ⟨text, hquoted, rfl⟩ := exists_quoted hread
        exact ⟨_, .plain hquote (hquoted.head?_append _ ▸ hescape) hquoted, rfl⟩
termination_by s.length

/-! ## References -/

theorem readReference_eq_ok_iff {s : List Char} {source : Namespace} {segments : List String} :
    readReference s = .ok (source, segments) ↔
      ∃ texts, (∀ text ∈ texts, SegmentText text) ∧ segments = texts.map String.ofList ∧
        trim s = List.intercalate ['.'] (source.name.toList :: texts) := by
  rw [readReference]
  constructor
  · intro h
    split at h
    · cases h
    rename_i head texts hsplit
    split at h
    · cases h
    rename_i found hnamed
    split at h
    · rename_i hall
      obtain ⟨rfl, rfl⟩ := Prod.mk.inj (Except.ok.inj h)
      refine ⟨texts, fun text htext =>
        segmentText_iff.mpr ⟨List.all_eq_true.mp hall text htext, ?_⟩, rfl, ?_⟩
      · exact not_mem_of_mem_split (hsplit ▸ List.mem_cons_of_mem _ htext)
      · rw [← Namespace.named?_eq_some_iff.mp hnamed, String.toList_ofList, ← hsplit,
          intercalate_split]
    · cases h
  · rintro ⟨texts, hvalid, rfl, hs⟩
    have hdots : ∀ piece ∈ source.name.toList :: texts, '.' ∉ piece := by
      intro piece hpiece
      rcases List.mem_cons.mp hpiece with rfl | htext
      · cases source <;> decide
      · exact (segmentText_iff.mp (hvalid piece htext)).2
    have hall : texts.all isSegment = true :=
      List.all_eq_true.mpr fun text htext => (segmentText_iff.mp (hvalid text htext)).1
    have hnamed : Namespace.named? (String.ofList source.name.toList) = some source :=
      Namespace.named?_eq_some_iff.mpr String.ofList_toList
    simp only [hs, split_intercalate hdots, hnamed, hall, if_true]

/-! ## Calls -/

theorem eq_of_untilParenthesis {depth : Nat} {q : Quoting} {s inside after : List Char}
    (h : untilParenthesis depth q s = some (inside, after)) : s = inside ++ ')' :: after := by
  fun_induction untilParenthesis depth q s generalizing inside with
  | case1 => cases h
  | case2 q c rest hclose =>
    obtain ⟨rfl, rfl⟩ := Prod.mk.inj (Option.some.inj h)
    rw [hclose.2]
    rfl
  | case3 q c rest hclose depth ih =>
    obtain ⟨⟨inside', after'⟩, hrest, heq⟩ := Option.map_eq_some_iff.mp h
    obtain ⟨rfl, rfl⟩ := Prod.mk.inj heq
    rw [ih hrest]
    rfl
  | case4 =>
    rename_i ih
    obtain ⟨⟨inside', after'⟩, hrest, heq⟩ := Option.map_eq_some_iff.mp h
    obtain ⟨rfl, rfl⟩ := Prod.mk.inj heq
    rw [ih hrest]
    rfl

theorem not_mem_name (function : Builtin) : '(' ∉ function.name.toList := by
  cases function <;> decide

theorem isCall_name (function : Builtin) (rest : List Char) :
    isCall (function.name.toList ++ '(' :: rest) = true := by
  cases function <;> rfl

theorem decide_ne_of_mem_name {function : Builtin} {c : Char} (h : c ∈ function.name.toList) :
    decide (c ≠ '(') = true :=
  decide_eq_true fun heq => not_mem_name function (heq ▸ h)

theorem takeWhile_name (function : Builtin) (rest : List Char) :
    (function.name.toList ++ '(' :: rest).takeWhile (· ≠ '(') = function.name.toList := by
  rw [List.takeWhile_append_of_pos fun _ => decide_ne_of_mem_name]
  exact List.append_nil _

theorem dropWhile_name (function : Builtin) (rest : List Char) :
    (function.name.toList ++ '(' :: rest).dropWhile (· ≠ '(') = '(' :: rest := by
  rw [List.dropWhile_append_of_pos fun _ => decide_ne_of_mem_name]
  rfl

/-- A call is a name with a text between parentheses. -/
theorem callParts_eq_ok_iff {s : List Char} {function : Builtin} {texts : List (List Char)} :
    callParts s = .ok (function, texts) ↔
      ∃ inside, trim s = function.name.toList ++ '(' :: (inside ++ [')']) ∧
        untilParenthesis 0 .outside (inside ++ [')']) = some (inside, []) ∧
        splitArguments inside = .ok texts := by
  rw [callParts]
  constructor
  · intro h
    simp only at h
    split at h
    · cases h
    rename_i c body hbody
    split at h
    · cases h
    rename_i inside after huntil
    split at h
    · cases h
    rename_i hafter
    split at h
    · cases h
    rename_i found hnamed
    split at h
    · cases h
    rename_i arguments hsplit
    obtain ⟨rfl, rfl⟩ := Prod.mk.inj (Except.ok.inj h)
    obtain rfl : after = [] := List.isEmpty_iff.mp (not_not.mp hafter)
    obtain rfl : c = '(' := by
      have := List.head?_dropWhile_not (· ≠ '(') (trim s)
      rw [hbody] at this
      simpa using this
    have hs := eq_of_untilParenthesis huntil
    refine ⟨inside, ?_, hs ▸ huntil, hsplit⟩
    rw [← Builtin.named?_eq_some_iff.mp hnamed, String.toList_ofList, ← hs, ← hbody]
    exact List.takeWhile_append_dropWhile.symm
  · rintro ⟨inside, hs, huntil, hsplit⟩
    have hnamed : Builtin.named? (String.ofList function.name.toList) = some function :=
      Builtin.named?_eq_some_iff.mpr String.ofList_toList
    simp only [hs, dropWhile_name, takeWhile_name, huntil, hnamed, hsplit, List.isEmpty_nil,
      not_true, if_false]

end Expr
end QueryGateway
