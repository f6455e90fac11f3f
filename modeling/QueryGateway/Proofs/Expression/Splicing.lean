import QueryGateway.Proofs.Expression.Evaluation
import QueryGateway.Proofs.Expression.Reader
import QueryGateway.Proofs.Expression.Segments
import QueryGateway.Proofs.Traversal

/-!
Texts in the place of references.

Texts are spliced into a template by the offsets of its references alone: the bytes between them
are kept, and the texts are not looked at.  Filling the segments of a template does the same
(`splice_references`), and reading and evaluating its expressions is reading and evaluating its
references one after the other (`mapM_read_holes`, `evalAll_eq_iff`).
-/

namespace QueryGateway

namespace Reference

/-- The bytes of a template from an offset on, with a text in the place of each reference. -/
def splice (template : ByteArray) : (offset : Nat) → List (Reference × String) → ByteArray
  | offset, [] => template.extract offset template.size
  | offset, (r, text) :: rest =>
    template.extract offset r.start ++ text.toByteArray ++ splice template r.stop rest

/-- Whether a reference has a value, and leaves a supply behind. -/
def Gives (ctx : Context) (supply : Supply) (r : Reference) (value : Value) (supply' : Supply) :
    Prop :=
  Expr.evalText ctx r.inner.toList supply = .ok (value, supply')

end Reference

namespace Segments

theorem length_referencesFrom (d : Delimiters) (offset : Nat) (holes : List Hole) :
    (referencesFrom d offset holes).length = holes.length := by
  rw [← List.length_map (f := Reference.inner), inner_referencesFrom, List.length_map]

theorem splice_referencesFrom (d : Delimiters) {text before : ByteArray} {holes : List Hole}
    {tail : List Char} {texts : List String}
    (htext : text = before ++ (joined d.opening.toList d.closing.toList holes tail).utf8Encode)
    (hlength : texts.length = holes.length) :
    Reference.splice text before.size ((referencesFrom d before.size holes).zip texts) =
      (fillWith String.toList { holes, tail } texts).utf8Encode := by
  induction holes generalizing before texts with
  | nil =>
    show text.extract before.size text.size = tail.utf8Encode
    rw [htext]
    exact ByteArray.extract_append_eq_right rfl ByteArray.size_append
  | cons hole rest ih =>
    obtain ⟨filled, others, rfl⟩ := List.exists_cons_of_length_eq_add_one hlength
    have hsplit := joined_cons d htext
    have hbefore : text.extract before.size (before ++ hole.before.utf8Encode).size =
        hole.before.utf8Encode := by
      rw [hsplit, ByteArray.append_assoc (a := before ++ _), ByteArray.size_append]
      exact extract_middle _ _ _
    rw [referencesFrom_cons, List.zip_cons_cons, Reference.splice, hbefore,
      ← ByteArray.size_append, ih hsplit (Nat.succ.inj hlength)]
    simp only [fillWith, List.zip_cons_cons, List.flatMap_cons, List.utf8Encode_append,
      ByteArray.append_assoc, String.utf8Encode_toList]

theorem fillWith_map {α β : Type} (texts : β → List Char) (f : α → β) (s : Segments)
    (fills : List α) :
    s.fillWith texts (fills.map f) = s.fillWith (fun a => texts (f a)) fills := by
  rw [fillWith, fillWith, List.zip_map_right, List.flatMap_map]
  rfl

/-- One expression is the whole of a template if its reference spans it. -/
theorem whole?_isSome_iff (d : Delimiters) (template : String) :
    (of d template.toList).whole?.isSome ↔
      ∃ r, d.references template = [r] ∧ r.spans template := by
  have hsize : template.utf8ByteSize = byteLength template.toList := by
    rw [byteLength_eq_utf8ByteSize, String.ofList_toList]
  rw [← joined_of d template.toList] at hsize
  rw [Delimiters.references]
  simp only [Reference.spans, hsize]
  generalize of d template.toList = segments
  obtain ⟨holes, tail⟩ := segments
  match holes with
  | [] => exact iff_of_false Bool.false_ne_true fun h => by simp [referencesFrom] at h
  | first :: second :: rest =>
    exact iff_of_false Bool.false_ne_true fun h => by simp [referencesFrom] at h
  | [hole] =>
    obtain ⟨before, inner⟩ := hole
    -- Nothing stands before and after an expression exactly if the lengths add up to its own.
    have hempty : byteLength before = 0 ↔ before = [] :=
      ⟨eq_nil_of_byteLength, fun h => h ▸ rfl⟩
    have htail : byteLength tail = 0 ↔ tail = [] := ⟨eq_nil_of_byteLength, fun h => h ▸ rfl⟩
    have hwhole :
        (whole? { holes := [⟨before, inner⟩], tail }).isSome ↔ before = [] ∧ tail = [] := by
      cases before <;> cases tail <;> simp [whole?]
    rw [hwhole, ← hempty, ← htail]
    simp only [referencesFrom, joined, byteLength_append, List.cons.injEq, and_true,
      exists_eq_left', Bool.and_eq_true, beq_iff_eq]
    omega

end Segments

namespace Delimiters

theorem splice_references (d : Delimiters) (template : String) {texts : List String}
    (hlength : texts.length = (d.references template).length) :
    Reference.splice template.toByteArray 0 ((d.references template).zip texts) =
      ((Segments.of d template.toList).fillWith String.toList texts).utf8Encode :=
  Segments.splice_referencesFrom d (d.toByteArray_eq_joined template)
    (hlength.trans (Segments.length_referencesFrom d 0 _))

theorem mapM_read_holes (d : Delimiters) (template : String) :
    (Segments.of d template.toList).holes.mapM (fun hole => Expr.read hole.inner) =
      (d.references template).mapM fun r => Expr.read r.inner.toList := by
  have htrim : ∀ hole : Hole,
      Expr.read (String.ofList (Text.trim hole.inner)).toList = Expr.read hole.inner := by
    intro hole
    rw [String.toList_ofList, Expr.read_trim]
  have hinner := congrArg (fun texts => texts.mapM fun s : String => Expr.read s.toList)
    (d.inner_references template)
  simp only [List.mapM_map, Function.comp_def, htrim] at hinner
  exact hinner.symm

end Delimiters

theorem Expr.evalAll_eq_iff {ctx : Context} {references : List Reference} {es : List Expr}
    (h : List.Forall₂ (fun r e => read r.inner.toList = .ok e) references es)
    {supply supply' : Supply} {values : List Value} :
    evalAll ctx es supply = (values, supply') ↔
      Threaded (Reference.Gives ctx) supply references values supply' := by
  induction h generalizing supply values with
  | nil => rw [evalAll, Threaded.nil_iff, Prod.mk.injEq, eq_comm, @eq_comm _ supply]
  | @cons r e rest es hread _ ih =>
    have hgives (value : Value) (next : Supply) :
        r.Gives ctx supply value next ↔ e.eval ctx supply = (value, next) := by
      rw [Reference.Gives, evalText, hread]
      exact ⟨fun h => Except.ok.inj h, fun h => congrArg Except.ok h⟩
    simp only [Threaded.cons_iff, hgives, ← ih, evalAll]
    generalize e.eval ctx supply = first
    constructor
    · intro h
      obtain ⟨rfl, rfl⟩ := Prod.mk.inj h
      exact ⟨first.1, first.2, _, rfl, rfl, rfl⟩
    · rintro ⟨value, next, others, rfl, rfl, hothers⟩
      simp only [hothers]

theorem exists_read_of_gives {ctx : Context} {references : List Reference}
    {supply supply' : Supply} {values : List Value}
    (h : Threaded (Reference.Gives ctx) supply references values supply') :
    ∃ es, references.mapM (fun r => Expr.read r.inner.toList) = .ok es := by
  induction h with
  | nil => exact ⟨[], rfl⟩
  | cons first _ ih =>
    obtain ⟨e, he, -⟩ := exists_of_map_eq_ok first
    obtain ⟨es, hes⟩ := ih
    exact ⟨e :: es, by rw [List.mapM_cons, he, hes]; rfl⟩

end QueryGateway
