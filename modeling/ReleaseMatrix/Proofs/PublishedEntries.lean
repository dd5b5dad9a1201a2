import ReleaseMatrix.Proofs.PublishedFile

/-!
# What a file of published versions comes to

Every line of such a file is an entry, unless it is blank or a comment once the white space around
it is taken off. If every entry writes a version, the file lists these versions, as often as they are
written and in the order of the lines. If not, the file lists nothing at all: the first entry that
writes no version is named, by its number among all lines of the file and with the reason why its
text is no version.

What the lines behind the first such entry hold does not matter, and the lines before it matter only
in that each of them is passed over or writes some version.

## What is proved

* `Published.comesTo_ofLines`: what reading some lines gives.
* `Published.read_entries`: what reading a file gives.
-/

namespace ReleaseMatrix.Published

open Text

/-! ### What lines come to -/

/-- A line that is neither blank nor a comment. -/
def IsEntry (line : List Char) : Prop := trim line ≠ [] ∧ (trim line).head? ≠ some '#'

instance : DecidablePred IsEntry := fun line =>
  inferInstanceAs (Decidable (trim line ≠ [] ∧ (trim line).head? ≠ some '#'))

/-- The version that a line writes. -/
def Gives (line : List Char) (v : Version) : Prop :=
  Version.ofText (String.ofList (trim line)) = .ok v

/-- What some lines come to, of which the first has a number. -/
inductive ComesTo (number : Nat) (ls : List (List Char)) :
    Except PublishedError (List Version) → Prop where
  /-- Every entry writes a version, and these versions are listed. -/
  | versions {versions : List Version}
      (h : List.Forall₂ Gives (ls.filter (IsEntry ·)) versions) : ComesTo number ls (.ok versions)
  /-- An entry writes no version, and every entry before it writes one. -/
  | malformed {earlier later : List (List Char)} {line : List Char} {reason : VersionError}
      (hls : ls = earlier ++ line :: later)
      (hearlier : ∀ other ∈ earlier, IsEntry other → ∃ v, Gives other v) (hline : IsEntry line)
      (hreason : Version.ofText (String.ofList (trim line)) = .error reason) :
      ComesTo number ls (.error (.malformed (number + earlier.length) reason))

variable {number : Nat} {line : List Char} {ls rest : List (List Char)} {v : Version}
  {versions : List Version} {e : PublishedError}

theorem isListed_trim_iff : isListed (trim line) ↔ IsEntry line := by
  simp [isListed, IsEntry]

/-- A line that is no entry adds nothing to the lines behind it. -/
theorem ComesTo.skip (hline : ¬ IsEntry line) (h : ComesTo (number + 1) rest (.ok versions)) :
    ComesTo number (line :: rest) (.ok versions) := by
  obtain ⟨h⟩ := h
  apply ComesTo.versions
  simpa [List.filter_cons, hline] using h

/-- An entry adds its version in front of those on the lines behind it. -/
theorem ComesTo.cons (hline : IsEntry line) (hv : Gives line v)
    (h : ComesTo (number + 1) rest (.ok versions)) :
    ComesTo number (line :: rest) (.ok (v :: versions)) := by
  obtain ⟨h⟩ := h
  apply ComesTo.versions
  simpa [List.filter_cons, hline] using ⟨hv, h⟩

/-- An error on a line behind stays, and so does the number that it names. -/
theorem ComesTo.error_cons (hline : IsEntry line → ∃ v, Gives line v)
    (h : ComesTo (number + 1) rest (.error e)) : ComesTo number (line :: rest) (.error e) := by
  obtain - | @⟨earlier, later, other, reason, hrest, hearlier, hother, hreason⟩ := h
  have hnumber : number + 1 + earlier.length = number + (line :: earlier).length := by
    rw [List.length_cons]
    omega
  rw [hnumber]
  refine .malformed (by rw [hrest, List.cons_append]) ?_ hother hreason
  exact List.forall_mem_cons.2 ⟨hline, hearlier⟩

/-- Reading lines gives what they come to. -/
theorem comesTo_ofLines (number : Nat) (ls : List (List Char)) :
    ComesTo number ls (ofLines number ls) := by
  induction ls generalizing number with
  | nil => exact .versions .nil
  | cons line rest ih =>
    have hbehind := ih (number + 1)
    by_cases hline : IsEntry line
    · rw [ofLines_of_isListed (isListed_trim_iff.2 hline)]
      cases hread : Version.ofText (String.ofList (trim line)) with
      | error reason =>
        have hearlier : ∀ other ∈ [], IsEntry other → ∃ v, Gives other v := by simp
        exact .malformed (List.nil_append _).symm hearlier hline hread
      | ok v =>
        cases hrest : ofLines (number + 1) rest with
        | error e => exact (hrest ▸ hbehind).error_cons fun _ => ⟨v, hread⟩
        | ok versions => exact (hrest ▸ hbehind).cons hline hread
    · rw [ofLines_of_not_isListed (mt isListed_trim_iff.1 hline)]
      cases hrest : ofLines (number + 1) rest with
      | error e => exact (hrest ▸ hbehind).error_cons fun h => absurd h hline
      | ok versions => exact (hrest ▸ hbehind).skip hline

/-! ### What a file comes to -/

variable {around : Surroundings} {path text : String}

/-- **A file is read as the versions on its entries, or not at all.** If every entry of a readable
file writes a version, these versions are read, in the order of the lines and with repetitions. If
not, no version is read: the first entry that writes none is named, by its number among all lines,
with the reason why its trimmed text is no version. -/
theorem read_entries (hfile : around.files path = .ok text) :
    ((∀ line ∈ lines text.toList, IsEntry line → ∃ v, Gives line v) →
      ∃ versions, (read path).run around = ("", .ok versions) ∧
        List.Forall₂ Gives ((lines text.toList).filter (IsEntry ·)) versions) ∧
    ((¬ ∀ line ∈ lines text.toList, IsEntry line → ∃ v, Gives line v) →
      ∃ earlier line later reason, lines text.toList = earlier ++ line :: later ∧
        (∀ other ∈ earlier, IsEntry other → ∃ v, Gives other v) ∧ IsEntry line ∧
        Version.ofText (String.ofList (trim line)) = .error reason ∧
        (read path).run around = ("", .error (.malformed (earlier.length + 1) reason))) := by
  have hrun := run_read hfile
  -- the first line has the number one
  have hresult : ComesTo 1 (lines text.toList) (ofText text) := comesTo_ofLines 1 _
  generalize ofText text = result at hrun hresult
  cases hresult with
  | @versions versions h =>
    refine ⟨fun _ => ⟨versions, hrun, h⟩, fun hnot => absurd ?_ hnot⟩
    intro line hmem hline
    -- each entry is paired with its version
    have hgives : List.Forall₂ (fun line v => (∃ v, Gives line v) ∧ Gives line v) _ versions :=
      h.imp fun line v hv => ⟨⟨v, hv⟩, hv⟩
    exact ((List.forall₂_and_left _ _).1 hgives).1 line
      (List.mem_filter.2 ⟨hmem, decide_eq_true hline⟩)
  | @malformed earlier later line reason hls hearlier hline hreason =>
    constructor
    · intro hall
      obtain ⟨v, hv⟩ := hall line (by rw [hls]; simp) hline
      rw [Gives, hreason] at hv
      cases hv
    · intro _
      rw [Nat.add_comm] at hrun
      exact ⟨earlier, line, later, reason, hls, hearlier, hline, hreason, hrun⟩

/-- A file with a comment, a blank line, a carriage return within a line and two before newlines, in
which the fifth line is the first that holds no version. -/
def brokenListing : String :=
  "# central\r\n1.0.0\n\u00a0\n \r1.0.1-rc1 \n1.x.0\r\n1.2\n"

/-- The fifth line is named, which is the third entry, and no version is read. -/
theorem read_entries_brokenListing :
    (read "published.txt").run ⟨fun _ => .ok brokenListing, fun _ => none⟩ =
      ("", .error (.malformed 5 (.component .minor "x" "1.x.0"))) ∧
    ∃ earlier line later, lines brokenListing.toList = earlier ++ line :: later ∧
      earlier.length = 4 ∧ (∀ other ∈ earlier, IsEntry other → ∃ v, Gives other v) ∧
      IsEntry line ∧ Version.ofText (String.ofList (trim line)) =
        .error (.component .minor "x" "1.x.0") := by
  have hrun : (read "published.txt").run ⟨fun _ => .ok brokenListing, fun _ => none⟩ =
      ("", .error (.malformed 5 (.component .minor "x" "1.x.0"))) := by
    decide +kernel
  have hfile : (⟨fun _ => .ok brokenListing, fun _ => none⟩ : Surroundings).files "published.txt" =
      .ok brokenListing := rfl
  have hbad : ∀ v, ¬ Gives "1.x.0".toList v := by
    intro v hv
    have hrefused : Version.ofText (String.ofList (trim "1.x.0".toList)) =
        .error (.component .minor "x" "1.x.0") := by decide +kernel
    rw [Gives, hrefused] at hv
    cases hv
  have hnot : ¬ ∀ line ∈ lines brokenListing.toList, IsEntry line → ∃ v, Gives line v := by
    intro hall
    obtain ⟨v, hv⟩ := hall "1.x.0".toList (by decide +kernel) (by decide)
    exact hbad v hv
  obtain ⟨earlier, line, later, reason, hls, hearlier, hline, hreason, hread⟩ :=
    (read_entries hfile).2 hnot
  rw [hrun] at hread
  simp only [Prod.mk.injEq, Except.error.injEq, PublishedError.malformed.injEq, true_and] at hread
  obtain ⟨hnumber, rfl⟩ := hread
  exact ⟨hrun, earlier, line, later, hls, by omega, hearlier, hline, hreason⟩

end ReleaseMatrix.Published
