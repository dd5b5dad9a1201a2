import Mathlib.Data.Set.Basic
import Mathlib.Logic.Relation
import ReleaseMatrix.Matrix.Basic
import ReleaseMatrix.Proofs.Collection
import ReleaseMatrix.Proofs.DeclarationGrammar

/-!
# Only the declared versions count

A matrix is made from the lines of a source file, but of these lines it knows nothing except which
versions they declare. `Declaration.versionsOf` is that set of versions, which has neither an order
nor repetitions. What is read from the lines are the members of this set in ascending order, and
since an ascending list is determined by its members, lines that declare the same set are the same
to everything that is computed from them: the matrix, and the error if there is none.

Which lines these are can also be told by what may be done to them. `Declaration.Edit` lists four
ways to edit a source file: to put its lines in another order, to repeat a line, to add a line that
declares nothing, and to write a declaration in another way, for instance with another qualifier or
with the other type. Edits and their reversals lead from some lines to others exactly if both
declare the same versions.

## What is proved

* `Declaration.Edit.versionsOf_eq`: one edit leaves the declared versions as they are.
* `Declaration.eqvGen_edit_iff`: a series of edits does, too, and nothing else does.
* `Declaration.ofLines_eq_iff`: what is read from lines is determined by the declared versions.
* `Matrix.ofLines_eq_of_versionsOf`: and so is the matrix.
-/

namespace ReleaseMatrix

namespace Declaration

/-- The versions that some lines declare. -/
def versionsOf (lines : List String) : Set Version :=
  {v | ∃ line ∈ lines, ofLine line.toList = some v}

/-- An edit of a source file that leaves the declared versions as they are. -/
inductive Edit : List String → List String → Prop where
  /-- The lines are put in another order. -/
  | order {lines lines' : List String} (h : lines.Perm lines') : Edit lines lines'
  /-- A line is repeated. -/
  | repetition {line : String} {lines : List String} (h : line ∈ lines) :
      Edit lines (line :: lines)
  /-- A line is added that declares nothing. -/
  | addition {line : String} (lines : List String) (h : ofLine line.toList = none) :
      Edit lines (line :: lines)
  /-- A declaration is written in another way: with the same three numbers, but perhaps with other
  leading zeros, and with anything else before the keywords, as its type, as its qualifier and
  behind its name. -/
  | spelling {form form' : Form} {v : Version} (lines : List String) (h : form.Writes v)
      (h' : form'.Writes v) :
      Edit (String.ofList form.line :: lines) (String.ofList form'.line :: lines)

variable {lines lines' extra : List String} {line line' : String} {v : Version}

/-! ### What edits do to the declared versions -/

theorem mem_versionsOf : v ∈ versionsOf lines ↔ ∃ line ∈ lines, ofLine line.toList = some v :=
  Iff.rfl

theorem mem_versionsOf_cons : v ∈ versionsOf (line :: lines) ↔
    ofLine line.toList = some v ∨ v ∈ versionsOf lines := by
  simp only [mem_versionsOf, List.exists_mem_cons_iff]

/-- A line of the form declares the version that its numerals write. -/
theorem Form.Writes.ofLine_eq {form : Form} (h : form.Writes v) :
    ofLine (String.ofList form.line).toList = some v := by
  rw [String.toList_ofList, ofLine_line, Form.version?_eq_some_iff.2 h]

theorem exists_writes (h : ofLine line.toList = some v) :
    ∃ form : Form, String.ofList form.line = line ∧ form.Writes v := by
  obtain ⟨form, hform⟩ := exists_form h
  rw [← hform, ofLine_line] at h
  exact ⟨form, by rw [hform, String.ofList_toList], Form.version?_eq_some_iff.1 h⟩

/-- One edit leaves the declared versions as they are. -/
theorem Edit.versionsOf_eq (h : Edit lines lines') : versionsOf lines = versionsOf lines' := by
  ext v
  cases h with
  | order h => simp only [mem_versionsOf, h.mem_iff]
  | @repetition line _ h =>
    rw [mem_versionsOf_cons]
    exact ⟨.inr, fun hv => hv.elim (fun hline => ⟨line, h, hline⟩) id⟩
  | addition _ h =>
    rw [mem_versionsOf_cons, h]
    exact ⟨.inr, fun hv => hv.resolve_left nofun⟩
  | spelling _ h h' =>
    rw [mem_versionsOf_cons, mem_versionsOf_cons, h.ofLine_eq, h'.ofLine_eq]

/-- So does a series of edits, some of which may be taken back. -/
theorem versionsOf_eq_of_eqvGen (h : Relation.EqvGen Edit lines lines') :
    versionsOf lines = versionsOf lines' := by
  induction h with
  | rel lines lines' h => exact h.versionsOf_eq
  | refl lines => rfl
  | symm lines lines' _ ih => exact ih.symm
  | trans lines lines' lines'' _ _ ih ih' => exact ih.trans ih'

/-! ### What edits can do -/

/-- A line that says nothing new can be put in front. -/
theorem eqvGen_cons (h : ∀ v, ofLine line.toList = some v → v ∈ versionsOf lines) :
    Relation.EqvGen Edit lines (line :: lines) := by
  cases hline : ofLine line.toList with
  | none => exact .rel _ _ (.addition lines hline)
  | some v =>
    -- some line declares the version already: it is repeated, and written as the new line is
    obtain ⟨known, hmem, hknown⟩ := h v hline
    obtain ⟨form, rfl, hwrites⟩ := exists_writes hknown
    obtain ⟨form', rfl, hwrites'⟩ := exists_writes hline
    exact (Relation.EqvGen.rel _ _ (.repetition hmem)).trans _ _ _
      (.rel _ _ (.spelling lines hwrites hwrites'))

/-- Lines that say nothing new can be put in front. -/
theorem eqvGen_append (h : versionsOf extra ⊆ versionsOf lines) :
    Relation.EqvGen Edit lines (extra ++ lines) := by
  induction extra with
  | nil => exact .refl lines
  | cons line extra ih =>
    have hextra : versionsOf extra ⊆ versionsOf lines := fun v hv =>
      h (mem_versionsOf_cons.2 (.inr hv))
    refine (ih hextra).trans _ _ _ (eqvGen_cons fun v hv => ?_)
    rw [← versionsOf_eq_of_eqvGen (ih hextra)]
    exact h (mem_versionsOf_cons.2 (.inl hv))

/-- Edits lead from some lines to others exactly if both declare the same versions. -/
theorem eqvGen_edit_iff :
    Relation.EqvGen Edit lines lines' ↔ versionsOf lines = versionsOf lines' := by
  refine ⟨versionsOf_eq_of_eqvGen, fun h => ?_⟩
  have hfirst : Relation.EqvGen Edit lines (lines' ++ lines) := eqvGen_append h.ge
  have horder : Relation.EqvGen Edit (lines' ++ lines) (lines ++ lines') :=
    .rel _ _ (.order List.perm_append_comm)
  have hsecond : Relation.EqvGen Edit lines' (lines ++ lines') := eqvGen_append h.le
  exact hfirst.trans _ _ _ (horder.trans _ _ _ (hsecond.symm _ _))

/-! ### What is read and made -/

/-- The members of the set that is read are the declared versions. -/
theorem mem_toList_ofLines : v ∈ (ofLines lines).toList ↔ v ∈ versionsOf lines := mem_ofLines

/-- What is read is determined by the declared versions, and determines them. -/
theorem ofLines_eq_iff : ofLines lines = ofLines lines' ↔ versionsOf lines = versionsOf lines' := by
  constructor
  · intro h
    ext v
    rw [← mem_toList_ofLines, ← mem_toList_ofLines, h]
  · intro h
    refine SortedSet.eq_of_mem_iff fun v => ?_
    rw [mem_ofLines, mem_ofLines, ← mem_versionsOf, ← mem_versionsOf, h]

end Declaration

namespace Matrix

open Declaration

/-- **Only the set of declared versions counts.** Lines that declare the same versions give the same
matrix, or the same error, for every expected version and every policy, and what is read from them
are these versions, strictly ascending. The lines that declare the same versions as some others are
those that can be made of them by changes of order, repetitions, lines that declare nothing, and
other spellings of a declaration. -/
theorem ofLines_eq_of_versionsOf (lines lines' : List String) :
    (versionsOf lines = versionsOf lines' → ∀ (expected : Version) (p : Policy),
      ofLines lines expected p = ofLines lines' expected p) ∧
    (versionsOf lines = versionsOf lines' ↔ Relation.EqvGen Edit lines lines') ∧
    (Declaration.ofLines lines).toList.Pairwise (· < ·) ∧
    ∀ v, v ∈ (Declaration.ofLines lines).toList ↔ v ∈ versionsOf lines := by
  refine ⟨fun h expected p => ?_, eqvGen_edit_iff.symm, (Declaration.ofLines lines).ascending,
    fun v => mem_toList_ofLines⟩
  rw [ofLines, ofLines, ofLines_eq_iff.2 h]

/-- The constants of a first release and of the last release of a predecessor. -/
def plainConstants : List String :=
  ["    public static final Version V_7_10_2 = new Version(7100299);",
    "    public static final Version V_1_0_0 = new Version(1000099);"]

/-- The same two versions, the newer one first and twice, once as a candidate, the older one with a
type and a leading zero of its own, and with a line that declares nothing. -/
def respelledConstants : List String :=
  ["\tpublic static final Version V_1_0_0_rc1 = new Version(1000051);",
    "\tpublic static final Version CURRENT = V_1_0_0;",
    "\tpublic static final LegacyESVersion V_7_010_2 = LAST;",
    "\tpublic static final Version V_1_0_0 = new Version(1000099);"]

/-- Both make the matrix of the first release. -/
theorem ofLines_eq_of_versionsOf_respelledConstants :
    versionsOf plainConstants = versionsOf respelledConstants ∧
    ofLines plainConstants (.of 1 0 0) .standard =
      ofLines respelledConstants (.of 1 0 0) .standard ∧
    ∃ m, ofLines plainConstants (.of 1 0 0) .standard = .ok m ∧
      m.unreleasedVersions = [.of 1 0 0] := by
  have hplain : Declaration.ofLines plainConstants = .ofList [.of 7 10 2, .of 1 0 0] := by
    decide +kernel
  have hrespelled : Declaration.ofLines respelledConstants = .ofList [.of 7 10 2, .of 1 0 0] := by
    decide +kernel
  have hsame := ofLines_eq_iff.1 (hplain.trans hrespelled.symm)
  have hmade : ∃ m, ofLines plainConstants (.of 1 0 0) .standard = .ok m ∧
      m.unreleasedVersions = [.of 1 0 0] := by
    rw [ofLines, hplain]
    exact ⟨_, rfl, rfl⟩
  exact ⟨hsame, (ofLines_eq_of_versionsOf _ _).1 hsame _ _, hmade⟩

end Matrix

end ReleaseMatrix
