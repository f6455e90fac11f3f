import QueryGateway.Proofs.Expression.Parts
import QueryGateway.Proofs.Expression.Reader
import QueryGateway.Proofs.Expression.Spelling
import QueryGateway.Proofs.Traversal

/-!
Reading is the converse of spelling.

The passes of the reader agree on where literals, parentheses and arguments end, because all of
them go over a balanced text as a whole.  So a text is read as an expression exactly if it
spells it (`read_eq_ok_iff`).
-/

namespace QueryGateway.Expr

open Text

/-! ## Passes -/

/-- A comma that stands inside parentheses. -/
def CommaInside (depth : Nat) (c : Char) : Prop := c = ',' → 0 < depth

theorem pass_pieces : Pass CommaInside pieces? ontoFirst where
  inside h := by
    rw [pieces?.eq_def]
    simp only [h, false_and, if_false]
  quote := by
    intro depth rest
    rw [pieces?.eq_def]
    rfl
  plain := by
    intro depth c rest hordinary hcomma
    simp only [List.mem_cons, List.not_mem_nil, or_false, not_or] at hordinary
    have hseparates : ¬(c = ',' ∧ depth = 0) := fun h => absurd (hcomma h.1) (by omega)
    rw [pieces?.eq_def]
    simp only [true_and, hseparates, hordinary, if_false, Quoting.step]
  opened := by
    intro depth rest
    rw [pieces?.eq_def]
    rfl
  closed := by
    intro depth rest
    rw [pieces?.eq_def]
    rfl

theorem pass_untilParenthesis :
    Pass (fun _ _ => True) untilParenthesis fun c p => (c :: p.1, p.2) where
  inside h := by
    rw [untilParenthesis.eq_def]
    simp only [h, false_and, if_false]
  quote := by
    intro depth rest
    rw [untilParenthesis.eq_def]
    rfl
  plain := by
    intro depth c rest hordinary _
    simp only [List.mem_cons, List.not_mem_nil, or_false, not_or] at hordinary
    rw [untilParenthesis.eq_def]
    simp only [true_and, hordinary, if_false, Quoting.step]
  opened := by
    intro depth rest
    rw [untilParenthesis.eq_def]
    rfl
  closed := by
    intro depth rest
    rw [untilParenthesis.eq_def]
    rfl

theorem foldr_ontoFirst (s piece : List Char) (pieces : List (List Char)) :
    s.foldr ontoFirst (piece :: pieces) = (s ++ piece) :: pieces := by
  induction s with
  | nil => rfl
  | cons c rest ih =>
    rw [List.foldr_cons, ih]
    rfl

/-- A comma can stand inside parentheses, and everything else everywhere. -/
theorem permits_commaInside : Permits [] CommaInside where
  reserved := List.nil_subset _
  other hother _ hcomma := absurd hcomma hother
  comma _ := Nat.succ_pos _
  deeper h hcomma := Nat.lt_of_lt_of_le (h hcomma) (Nat.le_add_right _ _)

theorem permits_all : Permits [] fun _ _ => True where
  reserved := List.nil_subset _
  other _ _ := trivial
  comma := trivial
  deeper _ := trivial

theorem pieces?_last {piece : List Char} (h : Balanced CommaInside 0 piece) :
    pieces? 0 .outside piece = some [piece] := by
  have hpass := pass_pieces.over_balanced h []
  rw [List.append_nil] at hpass
  rw [hpass]
  show some (piece.foldr ontoFirst [[]]) = _
  rw [foldr_ontoFirst, List.append_nil]

theorem pieces?_separated (rest : List Char) :
    pieces? 0 .outside (',' :: rest) = (pieces? 0 .outside rest).map ([] :: ·) := by
  rw [pieces?.eq_def]
  rfl

theorem pieces?_comma {piece : List Char} (h : Balanced CommaInside 0 piece) (rest : List Char) :
    pieces? 0 .outside (piece ++ ',' :: rest) = (pieces? 0 .outside rest).map (piece :: ·) := by
  rw [pass_pieces.over_balanced h, pieces?_separated, Option.map_map]
  congr 1
  funext pieces
  show piece.foldr ontoFirst ([] :: pieces) = _
  rw [foldr_ontoFirst, List.append_nil]

/-! ## Spelled texts are read -/

theorem isCall_eq_false {s : List Char} (h : '(' ∉ s) : isCall s = false := by
  cases s with
  | nil => rfl
  | cons c rest =>
    refine Bool.and_eq_false_iff.mpr (.inr (beq_eq_false_iff_ne.mpr fun hhead => h ?_))
    exact List.mem_cons_of_mem c ((List.dropWhile_sublist _).subset (List.mem_of_head? hhead))

theorem readLiteral?_cons {c : Char} (h : c ≠ '\'') (rest : List Char) :
    readLiteral? (c :: rest) =
      if c :: rest = ['n', 'u', 'l', 'l'] then some (.ok .null)
      else (readNumber? (c :: rest)).map fun n => .ok (.num n) := by
  rw [readLiteral?.eq_def]
  split
  · rename_i heq
    exact absurd (List.cons.inj heq).1 h
  · rfl

theorem readLiteral?_of_readNumber? {s : List Char} {n : Number} (h : readNumber? s = some n) :
    readLiteral? s = some (.ok (.num n)) := by
  obtain ⟨hne, hchars⟩ := isNumeralChar_of_readNumber? h
  match s with
  | [] => exact absurd rfl hne
  | c :: rest =>
    have hquote : c ≠ '\'' := by
      rintro rfl
      cases hchars '\'' List.mem_cons_self
    have hnull : c :: rest ≠ ['n', 'u', 'l', 'l'] := by
      intro hnull
      rw [hnull] at hchars
      cases hchars 'n' List.mem_cons_self
    rw [readLiteral?_cons hquote, if_neg hnull, h]
    rfl

theorem readLiteral?_eq_none {c : Char} (hquote : c ≠ '\'') (hnumeral : isNumeralChar c = false)
    {rest : List Char} (hnull : c :: rest ≠ ['n', 'u', 'l', 'l']) :
    readLiteral? (c :: rest) = none := by
  rw [readLiteral?_cons hquote, if_neg hnull, Option.map_eq_none_iff]
  by_contra hsome
  obtain ⟨n, hn⟩ := Option.ne_none_iff_exists'.mp hsome
  have := (isNumeralChar_of_readNumber? hn).2 c List.mem_cons_self
  rw [hnumeral] at this
  cases this

/-- No expression is spelled like a literal. -/
theorem Spells.readLiteral?_eq_none {s : List Char} {e : Expr} (h : Spells s e) :
    readLiteral? s = none := by
  cases h with
  | @reference source segments valid =>
    cases segments <;> cases source <;>
      exact Expr.readLiteral?_eq_none (by decide) (by decide) fun h => by cases h
  | @call function left inside right args before arguments after arity =>
    cases function <;>
      exact Expr.readLiteral?_eq_none (by decide) (by decide) fun h => by cases h

/-- Whether a piece between commas is that of an argument. -/
def PieceOf (piece : List Char) (e : Expr) : Prop :=
  trim piece ≠ [] ∧ readArgument (trim piece) = .ok e

/-- A text that is cut into the pieces of its arguments is split into their texts. -/
theorem exists_texts {left inside right : List Char} {args : List Expr} (hleft : allBlank left)
    (hright : allBlank right) (h : SpellsArguments inside args)
    (hpieces : args ≠ [] →
      ∃ pieces, pieces? 0 .outside inside = some pieces ∧ List.Forall₂ PieceOf pieces args) :
    ∃ texts, splitArguments (left ++ inside ++ right) = .ok texts ∧
      texts.mapM readArgument = .ok args := by
  rw [splitArguments, trim_padded hleft hright]
  by_cases hargs : args = []
  · obtain rfl : inside = [] := by
      cases h with
      | none => rfl
      | one argument => cases hargs
      | more argument before after others nonempty => cases hargs
    exact ⟨[], rfl, hargs ▸ rfl⟩
  · obtain ⟨pieces, hcut, hall⟩ := hpieces hargs
    obtain ⟨hne, hread⟩ := (List.forall₂_and_left _ _).mp hall
    have hsolid := h.solid hargs
    have hinside : inside.isEmpty = false := List.isEmpty_eq_false_iff.mpr hsolid.ne_nil
    have hany : (pieces.map trim).any List.isEmpty = false := by
      rw [List.any_map, List.any_eq_false]
      exact fun piece hpiece h => hne piece hpiece (List.isEmpty_iff.mp h)
    refine ⟨pieces.map trim, ?_, mapM_eq_ok_iff.mpr (List.forall₂_map_left_iff.mpr hread)⟩
    simp only [hsolid.trim_eq, hinside, Bool.false_eq_true, if_false, hcut, hany]

theorem pieceOf_padded {left right s : List Char} {e : Expr} (hleft : allBlank left)
    (hright : allBlank right) (hs : SpellsArgument s e) (hread : readArgument s = .ok e) :
    PieceOf (left ++ s ++ right) e := by
  rw [PieceOf, trim_padded hleft hright, hs.solid.trim_eq]
  exact ⟨hs.solid.ne_nil, hread⟩

theorem padded_piece_balanced {left right s : List Char} {e : Expr} (hleft : allBlank left)
    (hright : allBlank right) (hs : SpellsArgument s e) :
    Balanced CommaInside 0 (left ++ s ++ right) := by
  have hend : Balanced CommaInside 0 (right ++ []) :=
    unmarked_balanced permits_commaInside (not_markup_of_blank hright) .done
  rw [List.append_nil] at hend
  rw [List.append_assoc]
  exact unmarked_balanced permits_commaInside (not_markup_of_blank hleft)
    (balanced_append permits_commaInside (hs.balanced permits_commaInside (avoids_none e)) hend)

theorem untilParenthesis_inside {left inside right : List Char} {args : List Expr}
    (hleft : allBlank left) (hright : allBlank right) (h : SpellsArguments inside args) :
    untilParenthesis 0 .outside (left ++ inside ++ right ++ [')']) =
      some (left ++ inside ++ right, []) := by
  have hend : Balanced (fun _ _ => True) 0 (right ++ []) :=
    unmarked_balanced permits_all (not_markup_of_blank hright) .done
  have hall : Balanced (fun _ _ => True) 0 (left ++ (inside ++ (right ++ []))) :=
    unmarked_balanced permits_all (not_markup_of_blank hleft)
      (h.balanced permits_all (allAvoid_none args) trivial hend)
  rw [List.append_nil, ← List.append_assoc] at hall
  rw [pass_untilParenthesis.over_balanced hall [')']]
  show some ((left ++ inside ++ right).foldr _ ([], [])) = _
  rw [foldr_keep, List.append_nil]

-- By the derivation of the spelling.  The pieces of arguments take the blanks before the first
-- of them, since those after a comma belong to the piece that follows it.
mutual

theorem Spells.read {s : List Char} {e : Expr} (h : Spells s e) : Expr.read s = .ok e := by
  have htrim := h.solid.trim_eq
  rw [read_eq, htrim]
  match h with
  | @Spells.reference source segments valid =>
    have hcall : isCall (List.intercalate ['.'] (source.name.toList :: segments)) = false :=
      isCall_eq_false (not_mem_reference valid '(' (by decide))
    have hread : readReference (List.intercalate ['.'] (source.name.toList :: segments)) =
        .ok (source, segments.map String.ofList) :=
      readReference_eq_ok_iff.mpr ⟨segments, valid, rfl, htrim⟩
    rw [hcall, hread]
    rfl
  | @Spells.call function left inside right args before arguments after arity =>
    obtain ⟨texts, hsplit, hargs⟩ :=
      exists_texts before after arguments fun hne => arguments.pieces hne allBlank_nil
    have huntil := untilParenthesis_inside before after arguments
    have hparts := callParts_eq_ok_iff.mpr ⟨left ++ inside ++ right, htrim, huntil, hsplit⟩
    rw [isCall_name, hparts]
    show (texts.mapM readArgument).bind _ = _
    rw [hargs]
    exact if_pos arity

theorem SpellsArgument.read {s : List Char} {e : Expr} (h : SpellsArgument s e) :
    readArgument s = .ok e := by
  match h with
  | @SpellsArgument.string text content quoted =>
    have hcontent := quoted.read []
    rw [List.append_nil] at hcontent
    rw [readArgument, readLiteral?]
    simp only [hcontent]
    rfl
  | .null => rfl
  | .numeral number =>
    rw [readArgument, readLiteral?_of_readNumber? number]
    rfl
  | .expression spelled =>
    rw [readArgument, spelled.readLiteral?_eq_none]
    exact spelled.read

theorem SpellsArguments.pieces {s : List Char} {es : List Expr} (h : SpellsArguments s es)
    (hne : es ≠ []) {left : List Char} (hleft : allBlank left) :
    ∃ pieces, pieces? 0 .outside (left ++ s) = some pieces ∧ List.Forall₂ PieceOf pieces es := by
  match h with
  | .none => exact absurd rfl hne
  | @SpellsArguments.one s e argument =>
    have hbalanced := padded_piece_balanced hleft allBlank_nil argument
    have hpiece := pieceOf_padded hleft allBlank_nil argument argument.read
    rw [List.append_nil] at hbalanced hpiece
    exact ⟨[left ++ s], pieces?_last hbalanced, .cons hpiece .nil⟩
  | @SpellsArguments.more s before after rest e es argument hbefore hafter others nonempty =>
    obtain ⟨pieces, hpieces, hall⟩ := others.pieces nonempty hafter
    have hpiece := pieceOf_padded hleft hbefore argument argument.read
    refine ⟨(left ++ s ++ before) :: pieces, ?_, .cons hpiece hall⟩
    rw [← List.append_assoc, ← List.append_assoc,
      pieces?_comma (padded_piece_balanced hleft hbefore argument), hpieces]
    rfl

end

/-! ## Read texts are spelled -/

theorem intercalate_ontoFirst (c : Char) {pieces : List (List Char)} (hne : pieces ≠ []) :
    List.intercalate [','] (ontoFirst c pieces) = c :: List.intercalate [','] pieces := by
  cases pieces with
  | nil => exact absurd rfl hne
  | cons piece pieces => exact List.intercalate_cons_cons_left

theorem ontoFirst_ne_nil (c : Char) (pieces : List (List Char)) : ontoFirst c pieces ≠ [] := by
  cases pieces <;> exact List.cons_ne_nil _ _

/-- Cutting a text into pieces is undone by joining. -/
theorem intercalate_of_pieces? {depth : Nat} {q : Quoting} {s : List Char}
    {pieces : List (List Char)} (h : pieces? depth q s = some pieces) :
    pieces ≠ [] ∧ List.intercalate [','] pieces = s := by
  fun_induction pieces? depth q s generalizing pieces with
  | case1 =>
    obtain rfl := Option.some.inj h
    exact ⟨List.cons_ne_nil _ _, rfl⟩
  | case2 => cases h
  | case3 depth q c rest hcomma ih =>
    obtain ⟨others, hothers, rfl⟩ := Option.map_eq_some_iff.mp h
    obtain ⟨hne, hjoin⟩ := ih hothers
    refine ⟨List.cons_ne_nil _ _, ?_⟩
    cases others with
    | nil => exact absurd rfl hne
    | cons second others => rw [List.intercalate_cons_cons, hjoin, hcomma.2.1]; rfl
  | case4 => cases h
  | case5 q c rest hcomma hclose depth ih =>
    obtain ⟨others, hothers, rfl⟩ := Option.map_eq_some_iff.mp h
    obtain ⟨hne, hjoin⟩ := ih hothers
    exact ⟨ontoFirst_ne_nil c others, by rw [intercalate_ontoFirst c hne, hjoin]⟩
  | case6 =>
    rename_i ih
    obtain ⟨others, hothers, rfl⟩ := Option.map_eq_some_iff.mp h
    obtain ⟨hne, hjoin⟩ := ih hothers
    exact ⟨ontoFirst_ne_nil _ others, by rw [intercalate_ontoFirst _ hne, hjoin]⟩

/-- Pieces that are arguments between blanks make up a list of arguments between blanks. -/
theorem exists_spellsArguments {pieces : List (List Char)} {es : List Expr}
    (h : List.Forall₂ (fun piece e => SpellsArgument (trim piece) e) pieces es) :
    ∃ left inside right, allBlank left ∧ allBlank right ∧
      List.intercalate [','] pieces = left ++ inside ++ right ∧ SpellsArguments inside es := by
  induction h with
  | nil => exact ⟨[], [], [], rfl, rfl, rfl, .none⟩
  | @cons piece e pieces es hpiece hrest ih =>
    obtain ⟨left, right, hleft, hright, hpadded⟩ := exists_padding piece
    cases hrest with
    | nil =>
      refine ⟨left, trim piece, right, hleft, hright, ?_, .one hpiece⟩
      rw [List.intercalate_singleton]
      exact hpadded
    | @cons second e' pieces es hsecond hothers =>
      -- The blanks that the others have on their left now stand after a comma.
      obtain ⟨left', inside, right', hleft', hright', hjoin, hinside⟩ := ih
      refine ⟨left, trim piece ++ right ++ ',' :: (left' ++ inside), right', hleft, hright', ?_,
        .more hpiece hright hleft' hinside (List.cons_ne_nil _ _)⟩
      rw [List.intercalate_cons_cons, hjoin]
      nth_rewrite 1 [hpadded]
      simp only [List.append_assoc, List.cons_append, List.nil_append]

theorem spellsArguments_of_split {s : List Char} {texts : List (List Char)} {es : List Expr}
    (h : splitArguments s = .ok texts) (hes : List.Forall₂ SpellsArgument texts es) :
    ∃ left inside right, allBlank left ∧ allBlank right ∧ s = left ++ inside ++ right ∧
      SpellsArguments inside es := by
  obtain ⟨left, right, hleft, hright, hpadded⟩ := exists_padding s
  simp only [splitArguments] at h
  split at h
  · rename_i hempty
    obtain rfl := Except.ok.inj h
    obtain rfl := List.forall₂_nil_left_iff.mp hes
    rw [List.isEmpty_iff.mp hempty] at hpadded
    exact ⟨left, [], right, hleft, hright, hpadded, .none⟩
  · split at h
    · cases h
    rename_i pieces hpieces
    split at h
    · cases h
    obtain rfl := Except.ok.inj h
    obtain ⟨left', inside, right', hleft', hright', hjoin, hinside⟩ :=
      exists_spellsArguments (List.forall₂_map_left_iff.mp hes)
    rw [(intercalate_of_pieces? hpieces).2] at hjoin
    refine ⟨left ++ left', inside, right' ++ right, allBlank_append hleft hleft',
      allBlank_append hright' hright, ?_, hinside⟩
    rw [hpadded, hjoin]
    simp only [List.append_assoc]

theorem trim_of_mem_splitArguments {s : List Char} {texts : List (List Char)}
    (h : splitArguments s = .ok texts) : ∀ text ∈ texts, trim text = text := by
  simp only [splitArguments] at h
  split at h
  · obtain rfl := Except.ok.inj h
    intro text htext
    cases htext
  · split at h
    · cases h
    split at h
    · cases h
    obtain rfl := Except.ok.inj h
    intro text htext
    obtain ⟨piece, -, rfl⟩ := List.mem_map.mp htext
    exact trim_trim piece

/-- A text that is read as a literal is the text of an argument. -/
theorem spellsArgument_of_readLiteral? {s : List Char} {value : Json}
    (h : readLiteral? s = some (.ok value)) : SpellsArgument s (.literal value) := by
  rw [readLiteral?.eq_def] at h
  split at h
  · split at h
    · cases h
    rename_i rest content after hcontent
    split at h
    · rename_i hafter
      obtain rfl := Except.ok.inj (Option.some.inj h)
      obtain ⟨text, hquoted, rfl⟩ := exists_quoted hcontent
      rw [List.isEmpty_iff.mp hafter, List.append_nil]
      exact .string hquoted
    · cases h
  · split at h
    · rename_i hnull
      obtain rfl := Except.ok.inj (Option.some.inj h)
      rw [hnull]
      exact .null
    · obtain ⟨n, hn, hvalue⟩ := Option.map_eq_some_iff.mp h
      obtain rfl := Except.ok.inj hvalue
      exact .numeral hn

theorem ofParts_eq_ok_iff {function : Builtin} {texts : List (List Char)} {e : Expr} :
    ofParts (function, texts) = .ok e ↔
      ∃ args, texts.mapM readArgument = .ok args ∧ args.length = function.arity ∧
        e = .call function args := by
  rw [ofParts]
  cases texts.mapM readArgument with
  | error e' => exact ⟨nofun, fun ⟨_, h, _⟩ => by cases h⟩
  | ok args =>
    show (if args.length = function.arity then _ else _) = _ ↔ _
    by_cases harity : args.length = function.arity
    · rw [if_pos harity]
      constructor
      · exact fun h => ⟨args, rfl, harity, (Except.ok.inj h).symm⟩
      · rintro ⟨_, h, -, rfl⟩
        rw [Except.ok.inj h]
    · rw [if_neg harity]
      constructor
      · exact nofun
      · rintro ⟨_, h, hlength, -⟩
        rw [← Except.ok.inj h] at hlength
        exact absurd hlength harity

theorem spells_of_callParts {s : List Char} {function : Builtin} {texts : List (List Char)}
    {args : List Expr} (h : callParts s = .ok (function, texts))
    (hargs : List.Forall₂ SpellsArgument texts args) (harity : args.length = function.arity) :
    Spells (trim s) (.call function args) := by
  obtain ⟨inside, hs, -, hsplit⟩ := callParts_eq_ok_iff.mp h
  obtain ⟨left, inside', right, hleft, hright, rfl, hinside⟩ :=
    spellsArguments_of_split hsplit hargs
  rw [hs]
  exact .call hleft hinside hright harity

theorem trim_of_mem_callParts {s : List Char} {function : Builtin} {texts : List (List Char)}
    (h : callParts s = .ok (function, texts)) : ∀ text ∈ texts, trim text = text := by
  obtain ⟨inside, -, -, hsplit⟩ := callParts_eq_ok_iff.mp h
  exact trim_of_mem_splitArguments hsplit

/-- A text that is read as an expression spells it.  The texts of the arguments of a call are
shorter than the call, so the induction is that of the reader. -/
theorem spells_of_read {s : List Char} {e : Expr} (h : read s = .ok e) : Spells (trim s) e := by
  rw [read_eq] at h
  split at h
  · cases hparts : callParts s with
    | error e' =>
      rw [hparts] at h
      cases h
    | ok parts =>
      obtain ⟨function, texts⟩ := parts
      rw [hparts] at h
      obtain ⟨args, hargs, harity, rfl⟩ := ofParts_eq_ok_iff.mp h
      have hspelled : ∀ text ∈ texts, ∀ e, readArgument text = .ok e → SpellsArgument text e := by
        intro text htext e hread
        rw [readArgument] at hread
        split at hread
        · rename_i reading hliteral
          cases reading with
          | error e' => cases hread
          | ok value =>
            obtain rfl := Except.ok.inj hread
            exact spellsArgument_of_readLiteral? hliteral
        · have hshorter : text.length < s.length := length_lt_of_mem_callParts hparts text htext
          have hspells := spells_of_read hread
          rw [trim_of_mem_callParts hparts text htext] at hspells
          exact .expression hspells
      have hall := (List.forall₂_and_left _ _).mpr ⟨hspelled, mapM_eq_ok_iff.mp hargs⟩
      exact spells_of_callParts hparts (hall.imp fun text e h => h.1 e h.2) harity
  · cases hread : readReference s with
    | error e' =>
      rw [hread] at h
      cases h
    | ok reference =>
      obtain ⟨source, segments⟩ := reference
      rw [hread] at h
      obtain rfl := Except.ok.inj h
      obtain ⟨texts, hvalid, rfl, hs⟩ := readReference_eq_ok_iff.mp hread
      rw [hs]
      exact .reference hvalid
termination_by s.length

/-- A text is read as an expression exactly if, without the blanks around it, it spells it. -/
theorem read_eq_ok_iff {s : List Char} {e : Expr} : read s = .ok e ↔ Spells (trim s) e := by
  constructor
  · exact spells_of_read
  · intro h
    rw [← read_trim]
    exact h.read

end QueryGateway.Expr
