import ReleaseMatrix.Policy.Document
import ReleaseMatrix.Proofs.Collection

/-!
# The numbers of a policy

The numbers of a policy have a width. Majors and counts of majors fit in 32 bits, the numbers of
supported majors in 64. Here this is a property of policies, and every policy that is read has it:
each number was compared with its bound, or is one of the standard policy.
-/

namespace ReleaseMatrix

/-! ### The width of the numbers -/

/-- The numbers of the window have the width of their fields. -/
structure LegacyWindow.Fits (w : LegacyWindow) : Prop where
  /-- A major fits in 32 bits. -/
  untilMajor : w.untilMajor < 0x100000000
  /-- A number of supported majors fits in 64 bits. -/
  supportedMajors : w.supportedMajors < 0x10000000000000000

/-- The majors of the transition fit in 32 bits. -/
structure Transition.Fits (t : Transition) : Prop where
  /-- The major to which the transition applies. -/
  major : t.major < 0x100000000
  /-- The major whose newest minor takes part over the wire. -/
  wirePreviousMajor : ∀ major ∈ t.wirePreviousMajor, major < 0x100000000
  /-- The majors whose indices are read. -/
  extraIndexMajors : ∀ major ∈ t.extraIndexMajors, major < 0x100000000
  /-- The majors that take part over the wire. -/
  extraWireMajors : ∀ major ∈ t.extraWireMajors, major < 0x100000000

/-- The numbers of the policy have the width of their fields. -/
structure Policy.Fits (p : Policy) : Prop where
  /-- A major with an alias and its alias fit in 32 bits. -/
  majorAliases : ∀ row ∈ p.majorAliases.rows, row.1 < 0x100000000 ∧ row.2 < 0x100000000
  /-- A number of retained majors fits in 32 bits. -/
  retainedMajors : p.retainedMajors < 0x100000000
  /-- A number of supported majors fits in 64 bits. -/
  supportedMajors : p.supportedMajors < 0x10000000000000000
  /-- The window, if there is one. -/
  legacyWindow : ∀ window ∈ p.legacyWindow, window.Fits
  /-- A legacy major fits in 32 bits. -/
  legacyMajors : ∀ major ∈ p.legacyMajors, major < 0x100000000
  /-- The transitions. -/
  transitions : ∀ t ∈ p.transitions, t.Fits

/-! ### What is read fits -/

section

variable {α β : Type}

/-- A traversal gives things that one of its steps gives. -/
theorem forall_of_mapM_eq_some {read : β → Option α} {P : α → Prop}
    (hread : ∀ y x, read y = some x → P x) {ys : List β} {xs : List α}
    (h : ys.mapM read = some xs) : ∀ x ∈ xs, P x := by
  induction ys generalizing xs with
  | nil =>
    obtain rfl : [] = xs := by simpa using h
    simp
  | cons y ys ih =>
    rw [List.mapM_cons] at h
    simp only [Option.bind_eq_bind, Option.bind_eq_some_iff, Option.pure_def, Option.some.injEq]
      at h
    obtain ⟨x, hx, xs, hxs, rfl⟩ := h
    exact List.forall_mem_cons.2 ⟨hread y x hx, ih hxs⟩

end

namespace Document

theorem lt_of_natural? {d : Document} {bound n : Nat} (h : d.natural? bound = some n) :
    n < bound := by
  cases d with
  | scalar s => simpa using (Option.filter_eq_some_iff.1 h).2
  | list positional items => simp [natural?] at h
  | record entries => simp [natural?] at h

theorem lt_of_word? (d : Document) (n : Nat) (h : d.word? = some n) : n < 0x100000000 :=
  lt_of_natural? h

variable {α : Type} {read : Document → Option α} {P : α → Prop}
  (hread : ∀ d x, read d = some x → P x)

include hread

theorem forall_of_listOf? (d : Document) (xs : List α) (h : d.listOf? read = some xs) :
    ∀ x ∈ xs, P x := by
  obtain ⟨items, -, hitems⟩ := Option.bind_eq_some_iff.1 h
  exact forall_of_mapM_eq_some hread hitems

theorem forall_of_optional? (d : Document) (x : Option α) (h : d.optional? read = some x) :
    ∀ y ∈ x, P y := by
  rintro y rfl
  have hvalue : read d = some y := by
    unfold optional? at h
    split at h
    · split at h <;> simp_all
    · simpa using h
  exact hread d y hvalue

theorem of_requiredField {fields : List (String × Document)} {name : String} {x : α}
    (h : requiredField fields name read = some x) : P x := by
  obtain ⟨d, -, hd⟩ := Option.bind_eq_some_iff.1 h
  exact hread d x hd

theorem of_fieldOr {fields : List (String × Document)} {name : String} {default x : α}
    (hdefault : P default) (h : fieldOr fields name read default = some x) : P x := by
  unfold fieldOr at h
  split at h
  · exact hread _ x h
  · obtain rfl := Option.some.inj h
    exact hdefault

end Document

theorem LegacyWindow.fits_of_ofDocument (d : Document) (w : LegacyWindow)
    (h : ofDocument d = some w) : w.Fits := by
  simp only [ofDocument, Option.bind_eq_bind, Option.bind_eq_some_iff, Option.pure_def,
    Option.some.injEq] at h
  obtain ⟨fields, -, untilMajor, huntil, supportedMajors, hsupported, rfl⟩ := h
  exact {
    untilMajor := Document.of_requiredField Document.lt_of_word? huntil
    supportedMajors := Document.of_requiredField (fun _ _ => Document.lt_of_natural?) hsupported }

theorem Transition.fits_of_ofDocument (d : Document) (t : Transition)
    (h : ofDocument d = some t) : t.Fits := by
  simp only [ofDocument, Option.bind_eq_bind, Option.bind_eq_some_iff, Option.pure_def,
    Option.some.injEq] at h
  obtain ⟨fields, -, major, hmajor, wire, hwire, extraIndex, hindex, extraWire, hextra, rfl⟩ := h
  have hnone : ∀ major ∈ (none : Option Nat), major < 0x100000000 := by simp
  have hnil : ∀ major ∈ ([] : List Nat), major < 0x100000000 := by simp
  exact {
    major := Document.of_requiredField Document.lt_of_word? hmajor
    wirePreviousMajor := Document.of_fieldOr (P := fun n => ∀ major ∈ n, major < 0x100000000)
      (Document.forall_of_optional? Document.lt_of_word?) hnone hwire
    extraIndexMajors := Document.of_fieldOr (P := fun ns => ∀ major ∈ ns, major < 0x100000000)
      (Document.forall_of_listOf? Document.lt_of_word?) hnil hindex
    extraWireMajors := Document.of_fieldOr (P := fun ns => ∀ major ∈ ns, major < 0x100000000)
      (Document.forall_of_listOf? Document.lt_of_word?) hnil hextra }

namespace Policy

theorem fits_of_aliasesOfDocument (d : Document) (t : Table Nat)
    (h : aliasesOfDocument d = some t) :
    ∀ row ∈ t.rows, row.1 < 0x100000000 ∧ row.2 < 0x100000000 := by
  simp only [aliasesOfDocument, Option.bind_eq_bind, Option.bind_eq_some_iff, Option.pure_def,
    Option.some.injEq] at h
  obtain ⟨entries, -, rows, hrows, rfl⟩ := h
  have hfits : ∀ row ∈ rows, row.1 < 0x100000000 ∧ row.2 < 0x100000000 := by
    refine forall_of_mapM_eq_some (fun entry row hrow => ?_) hrows
    simp only [Option.bind_eq_some_iff, Option.some.injEq] at hrow
    obtain ⟨key, hkey, value, hvalue, rfl⟩ := hrow
    exact ⟨Document.lt_of_natural? hkey, Document.lt_of_natural? hvalue⟩
  exact fun row hrow => hfits row (Table.mem_of_mem_rows_ofList hrow)

theorem fits_of_legacyMajorsOfDocument (d : Document) (s : SortedSet Nat)
    (h : legacyMajorsOfDocument d = some s) : ∀ major ∈ s, major < 0x100000000 := by
  simp only [legacyMajorsOfDocument, Option.bind_eq_bind, Option.bind_eq_some_iff, Option.pure_def,
    Option.some.injEq] at h
  obtain ⟨majors, hmajors, rfl⟩ := h
  intro major hmajor
  exact Document.forall_of_listOf? Document.lt_of_word? d majors hmajors major
    (SortedSet.mem_ofList.1 hmajor)

theorem fits_standard : standard.Fits where
  majorAliases := by decide
  retainedMajors := by decide
  supportedMajors := by decide
  legacyWindow := by
    intro window h
    obtain rfl := Option.some.inj h
    exact ⟨by decide, by decide⟩
  legacyMajors := by
    intro major h
    have hmajor : major ∈ [6, 7] := SortedSet.mem_ofList.1 h
    simp only [List.mem_cons, List.not_mem_nil, or_false] at hmajor
    omega
  transitions := by
    intro t ht
    have hcases : t = standard.transitions[0] ∨ t = standard.transitions[1] := by
      simpa [standard] using ht
    rcases hcases with rfl | rfl <;> constructor <;> simp [standard]

/-- Every policy that is described by some fields fits, since the standard policy does. -/
theorem fits_of_ofFields {p : Policy} {fields : List (String × Document)}
    (h : ofFields fields = some p) : p.Fits := by
  simp only [ofFields, Option.bind_eq_bind, Option.bind_eq_some_iff, Option.pure_def,
    Option.some.injEq] at h
  obtain ⟨trunk, -, bootstrap, -, aliases, haliases, retained, hretained, supported, hsupported,
    window, hwindow, legacy, hlegacy, transitions, htransitions, rfl⟩ := h
  exact {
    majorAliases :=
      Document.of_fieldOr (P := fun t => ∀ row ∈ t.rows, row.1 < 0x100000000 ∧ row.2 < 0x100000000)
        fits_of_aliasesOfDocument fits_standard.majorAliases haliases
    retainedMajors := Document.of_fieldOr (P := (· < 0x100000000)) Document.lt_of_word?
      fits_standard.retainedMajors hretained
    supportedMajors := Document.of_fieldOr (P := (· < 0x10000000000000000))
      (fun _ _ => Document.lt_of_natural?) fits_standard.supportedMajors hsupported
    legacyWindow := Document.of_fieldOr (P := fun w => ∀ window ∈ w, window.Fits)
      (Document.forall_of_optional? LegacyWindow.fits_of_ofDocument)
      fits_standard.legacyWindow hwindow
    legacyMajors := Document.of_fieldOr (P := fun s => ∀ major ∈ s, major < 0x100000000)
      fits_of_legacyMajorsOfDocument fits_standard.legacyMajors hlegacy
    transitions := Document.of_fieldOr (P := fun ts => ∀ t ∈ ts, t.Fits)
      (Document.forall_of_listOf? Transition.fits_of_ofDocument)
      fits_standard.transitions htransitions }

end Policy

end ReleaseMatrix
