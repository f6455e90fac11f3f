import QueryGateway.Proofs.Text.Percent
import QueryGateway.Proofs.Text.Split
import QueryGateway.Text.Hex

/-!
Reading form-encoded pairs.

A form encoding writes a blank as a plus sign and is a percent encoding otherwise.  Neither an
ampersand nor an equals sign occurs in what it writes, so the pairs of a query string are found
where they were written, and decoding gives them back (`formPairs_query`).
-/

namespace QueryGateway.Text

/-- A percent encoding for the names and values of forms. -/
structure FormEncoding extends PercentEncoding where
  ampersand : plain '&' = false
  equals : plain '=' = false
  plus : plain '+' = false

namespace FormEncoding

variable (e : FormEncoding)

/-- The percent encoding that leaves blanks, for the plus signs. -/
def blanked : PercentEncoding where
  plain c := c == ' ' || e.plain c
  digit := e.digit
  percent := by simp [e.percent]
  slash := by simp [e.slash]
  question := by simp [e.question]
  digits := e.digits

/-- The text of a name or a value. -/
def text (s : String) : List Char :=
  (e.blanked.encode s.toList).map fun c => if c = ' ' then '+' else c

/-- The text of a pair. -/
def pair (p : String × String) : List Char := e.text p.1 ++ '=' :: e.text p.2

/-- The query string of some pairs. -/
def query (pairs : List (String × String)) : String :=
  String.ofList (List.intercalate ['&'] (pairs.map e.pair))

theorem not_mem_blanked {c : Char} (hblank : c ≠ ' ') (hplain : e.plain c = false)
    (hpercent : c ≠ '%') (hdigit : hexDigit? c = none) (s : List Char) :
    c ∉ e.blanked.encode s := by
  refine e.blanked.not_mem_encode ?_ hpercent hdigit s
  show (c == ' ' || e.plain c) = false
  rw [hplain, beq_false_of_ne hblank]
  rfl

theorem not_mem_text {c : Char} (hplus : c ≠ '+') (hblank : c ≠ ' ') (hplain : e.plain c = false)
    (hpercent : c ≠ '%') (hdigit : hexDigit? c = none) (s : String) : c ∉ e.text s := by
  intro hmem
  obtain ⟨b, hb, hc⟩ := List.mem_map.mp hmem
  split at hc
  · exact hplus hc.symm
  · exact e.not_mem_blanked hblank hplain hpercent hdigit s.toList (hc ▸ hb)

theorem ampersand_not_mem_text (s : String) : '&' ∉ e.text s :=
  e.not_mem_text (by decide) (by decide) e.ampersand (by decide) (by decide) s

theorem equals_not_mem_text (s : String) : '=' ∉ e.text s :=
  e.not_mem_text (by decide) (by decide) e.equals (by decide) (by decide) s

theorem formDecode_text (s : String) : formDecode (e.text s) = s.toList := by
  have hplus := e.not_mem_blanked (c := '+') (by decide) e.plus (by decide) (by decide) s.toList
  have hback : (e.text s).map (fun c => if c = '+' then ' ' else c) =
      e.blanked.encode s.toList := by
    rw [text, List.map_map]
    refine (List.map_congr_left fun c hc => ?_).trans (List.map_id _)
    have hne : c ≠ '+' := fun h => hplus (h ▸ hc)
    by_cases hblank : c = ' '
    · simp [hblank]
    · simp [hblank, hne]
  rw [formDecode, hback, PercentEncoding.percentDecode_encode]

theorem ampersand_not_mem_pair (p : String × String) : '&' ∉ e.pair p := by
  rw [pair, List.mem_append, List.mem_cons, not_or, not_or]
  exact ⟨e.ampersand_not_mem_text p.1, by decide, e.ampersand_not_mem_text p.2⟩

theorem takeWhile_pair (p : String × String) : (e.pair p).takeWhile (· != '=') = e.text p.1 := by
  have hbefore : ∀ c ∈ e.text p.1, (c != '=') = true := fun c hc =>
    bne_iff_ne.mpr fun h => e.equals_not_mem_text p.1 (h ▸ hc)
  rw [pair, List.takeWhile_append_of_pos hbefore, List.takeWhile_cons_of_neg (by decide),
    List.append_nil]

theorem dropWhile_pair (p : String × String) :
    (e.pair p).dropWhile (· != '=') = '=' :: e.text p.2 := by
  have hbefore : ∀ c ∈ e.text p.1, (c != '=') = true := fun c hc =>
    bne_iff_ne.mpr fun h => e.equals_not_mem_text p.1 (h ▸ hc)
  rw [pair, List.dropWhile_append_of_pos hbefore, List.dropWhile_cons_of_neg (by decide)]

theorem formPairs_query (pairs : List (String × String)) :
    formPairs (e.query pairs).toList = pairs := by
  have hpieces : ∀ piece ∈ pairs.map e.pair, '&' ∉ piece ∧ (!piece.isEmpty) = true := by
    intro piece hpiece
    obtain ⟨p, -, rfl⟩ := List.mem_map.mp hpiece
    exact ⟨e.ampersand_not_mem_pair p, by simp [pair]⟩
  rw [query, String.toList_ofList, formPairs]
  cases pairs with
  | nil => rfl
  | cons first rest =>
    rw [List.map_cons] at hpieces ⊢
    rw [split_intercalate fun piece hpiece => (hpieces piece hpiece).1,
      List.filter_eq_self.mpr fun piece hpiece => (hpieces piece hpiece).2, ← List.map_cons,
      List.map_map]
    refine (List.map_congr_left fun p _ => ?_).trans (List.map_id _)
    simp only [Function.comp_apply, takeWhile_pair, dropWhile_pair, List.drop_one, List.tail_cons,
      formDecode_text, String.ofList_toList, id_eq]

end FormEncoding
end QueryGateway.Text
