import ReleaseMatrix.Proofs.JsonGrammar
import ReleaseMatrix.Proofs.PrintedReport

/-!
# The JSON report can be read back

What is printed for a value is a document of the grammar and so is read back as the value. Names of
branches are free text, but whatever is in them is escaped where it has to be. The printer breaks
lines only between tokens, where white space means nothing, and an empty list, which it writes
without a line break, is a production of its own.

The printer writes every value, and some values have no document: a number that is kept as it is
written can hold any text, and an object can have two fields with one name. `Json.Printable` leaves
these out.

## What is proved

* `Json.Printable.read?_pretty`: a printed value is read back.
* `Report.pretty_json_injective`: reports with the same JSON text are the same.
* `Matrix.isWrittenBy_report_iff`: what the JSON text of a report writes, field by field.
-/

namespace ReleaseMatrix

namespace Json

open Text

/-! ### Texts and numbers -/

/-- The written form of a character is one that the grammar has for it. -/
theorem writesChar_escapeChar (c : Char) : WritesChar (escapeChar c) c := by
  have hshort : ∀ {letter c'}, c = c' → (letter, c') ∈ shortEscapes →
      WritesChar ['\\', letter] c := by
    rintro letter c' rfl h
    exact .short h
  rw [escapeChar]
  split_ifs with hquote hbackslash hb ht hn hf hr hcontrol
  · exact hshort hquote (by decide)
  · exact hshort hbackslash (by decide)
  · exact hshort hb (by decide)
  · exact hshort ht (by decide)
  · exact hshort hn (by decide)
  · exact hshort hf (by decide)
  · exact hshort hr (by decide)
  · have hunit := HexUnit.digits (.lower (n := 0) (by decide)) (.lower (n := 0) (by decide))
      (.lower (n := c.toNat / 16) (by omega)) (.lower (n := c.toNat % 16) (by omega))
    have hcode : ((0 * 16 + 0) * 16 + c.toNat / 16) * 16 + c.toNat % 16 = c.toNat := by omega
    rw [hcode] at hunit
    exact .unit hunit
  · exact .plain (by omega) hquote hbackslash

theorem writesString_writeString (text : String) : WritesString (writeString text) text := by
  refine .quoted ?_
  induction text.toList with
  | nil => exact .nil
  | cons c cs ih => exact .cons (writesChar_escapeChar c) ih

/-- The decimal digits of a number have no leading zero. -/
theorem head?_toDigits {n : Nat} (hn : n ≠ 0) : (Nat.toDigits 10 n).head? ≠ some '0' := by
  have hdigit : ∀ d < 10, d ≠ 0 → Nat.digitChar d ≠ '0' := by decide
  induction n using Nat.strongRecOn with
  | ind n ih =>
    by_cases hlt : n < 10
    · rw [Nat.toDigits_of_lt_base hlt]
      exact fun heq => hdigit n hlt hn (Option.some.inj heq)
    · rw [Nat.toDigits_of_base_le (by decide) (by omega),
        List.head?_append_of_ne_nil _ Nat.toDigits_ne_nil]
      exact ih (n / 10) (by omega) (by omega)

theorem writesNumber_toDigits (n : Nat) : WritesNumber (Nat.toDigits 10 n) (.natural n) := by
  by_cases hn : n = 0
  · subst hn
    exact .natural .zero
  · exact .natural (.leading (decimal_toDigits n) (head?_toDigits hn))

/-! ### Values -/

/-- The values that have a document. -/
inductive Printable : Json → Prop where
  /-- The literal `null`. -/
  | null : Printable .null
  /-- A truth value. -/
  | bool (value : Bool) : Printable (.bool value)
  /-- A natural number. -/
  | natural (n : Nat) : Printable (.natural n)
  /-- A number that is kept as it is written. -/
  | number {written : String} (h : WritesNumber written.toList (.number written)) :
      Printable (.number written)
  /-- Any text. -/
  | string (text : String) : Printable (.string text)
  /-- A list. -/
  | array {items : List Json} (h : ∀ item ∈ items, Printable item) : Printable (.array items)
  /-- An object with distinct names. -/
  | object {fields : List (String × Json)} (h : ∀ field ∈ fields, Printable field.2)
      (hnames : (fields.map Prod.fst).Nodup) : Printable (.object fields)

theorem Printable.array_map {α : Type} {write : α → Json} {xs : List α}
    (h : ∀ x ∈ xs, (write x).Printable) : (Json.array (xs.map write)).Printable := by
  refine .array fun item hitem => ?_
  obtain ⟨x, hx, rfl⟩ := List.mem_map.1 hitem
  exact h x hx

theorem spaces_nil : Spaces [] := fun _ hc => absurd hc List.not_mem_nil

theorem spaces_newLine (depth : Nat) : Spaces (newLine depth) := by
  intro c hc
  rcases List.mem_cons.1 hc with rfl | hc
  · exact .inr (.inl rfl)
  · exact .inl (List.eq_of_mem_replicate hc)

variable {depth : Nat} {w w' : List Char} {v : Json}

/-- Printed items are items of a list if each of them is a value. -/
theorem writes_items {item : Json} {items : List Json}
    (h : ∀ v ∈ item :: items, Writes (write depth v) (.value v)) (hw : Spaces w)
    (hw' : Spaces w') :
    Writes (w ++ write depth item ++ writeItems depth items ++ w' ++ [']'])
      (.items (item :: items)) := by
  have hitem := h item List.mem_cons_self
  induction items generalizing item w with
  | nil => simpa [writeItems] using Writes.lastItem hw hitem hw'
  | cons next items ih =>
    have hnext := ih (fun v hv => h v (List.mem_cons_of_mem _ hv)) (spaces_newLine depth)
      (h next (by simp))
    simpa [writeItems] using Writes.item hw hitem spaces_nil hnext

/-- Printed fields are fields of an object if the value of each is one. -/
theorem writes_fields {field : String × Json} {fields : List (String × Json)}
    (h : ∀ f ∈ field :: fields, Writes (write depth f.2) (.value f.2)) (hw : Spaces w)
    (hw' : Spaces w') :
    Writes (w ++ writeField depth field ++ writeFields depth fields ++ w' ++ ['\x7d'])
      (.fields (field :: fields)) := by
  have hvalue := h field List.mem_cons_self
  have hname := writesString_writeString field.1
  have hcolon : Spaces [' '] := by simp [Spaces, IsSpace]
  induction fields generalizing field w with
  | nil =>
    obtain ⟨name, v⟩ := field
    simpa [writeFields, writeField] using Writes.lastField hw hname spaces_nil hcolon hvalue hw'
  | cons next fields ih =>
    have hnext := ih (fun f hf => h f (List.mem_cons_of_mem _ hf)) (spaces_newLine depth)
      (h next (by simp)) (writesString_writeString next.1)
    obtain ⟨name, v⟩ := field
    simpa [writeFields, writeField] using
      Writes.field hw hname spaces_nil hcolon hvalue spaces_nil hnext

/-- What is printed at any depth writes the value. -/
theorem Printable.writes_write (h : Printable v) (depth : Nat) :
    Writes (write depth v) (.value v) := by
  induction h generalizing depth with
  | null => exact .null
  | bool value =>
    cases value with
    | true => exact .true
    | false => exact .false
  | natural n => exact .number (writesNumber_toDigits n)
  | number h => exact .number h
  | string text => exact .string (writesString_writeString text)
  | @array items h ih =>
    cases items with
    | nil => exact .emptyArray spaces_nil
    | cons item items =>
      have hitems := writes_items (fun v hv => ih v hv (depth + 1)) (spaces_newLine (depth + 1))
        (spaces_newLine depth)
      exact .array hitems
  | @object fields h hnames ih =>
    cases fields with
    | nil => exact .emptyObject spaces_nil
    | cons field fields =>
      have hfields := writes_fields (fun f hf => ih f hf (depth + 1))
        (spaces_newLine (depth + 1)) (spaces_newLine depth)
      exact .object hfields hnames

theorem Printable.isWrittenBy_pretty (h : Printable v) : v.IsWrittenBy v.pretty.toList := by
  simpa [pretty] using IsWrittenBy.document spaces_nil (h.writes_write 0) spaces_nil

/-- A printed value is read back. -/
theorem Printable.read?_pretty (h : Printable v) : read? v.pretty = some v :=
  h.isWrittenBy_pretty.read?_eq

end Json

/-! ### Reports -/

theorem Unreleased.json_injective : Function.Injective Unreleased.json := by
  intro u w h
  obtain ⟨version, branch, project⟩ := u
  obtain ⟨version', branch', project'⟩ := w
  simpa [json, Version.text_injective.eq_iff, Project.path_injective.eq_iff] using h

namespace Report

theorem printable_json (r : Report) : r.json.Printable := by
  have hversions : ∀ vs : List Version,
      (Json.array (vs.map fun v => Json.string v.text)).Printable := fun vs =>
    .array_map fun _ _ => .string _
  have hunreleased : (Json.array (r.unreleased.map Unreleased.json)).Printable := by
    refine .array_map fun u _ => ?_
    refine .object ?_ (by simp)
    simp [Json.Printable.string]
  refine .object ?_ (by simp)
  simp [hversions, hunreleased, Json.Printable.string]

theorem read?_pretty_json (r : Report) : Json.read? r.json.pretty = some r.json :=
  r.printable_json.read?_pretty

/-- Reports with the same JSON text are the same. -/
theorem pretty_json_injective : Function.Injective fun r : Report => r.json.pretty := by
  intro r r' h
  have hjson : r.json = r'.json := by
    have hread := r.read?_pretty_json
    rw [show r.json.pretty = r'.json.pretty from h, r'.read?_pretty_json] at hread
    exact (Option.some.inj hread).symm
  have hversions : Function.Injective fun vs : List Version =>
      vs.map fun v => Json.string v.text :=
    List.map_injective_iff.2 fun _ _ heq => Version.text_injective (Json.string.inj heq)
  have hunreleased := List.map_injective_iff.2 Unreleased.json_injective
  obtain ⟨current, unreleased, released, index, wire, unreleasedIndex, unreleasedWire⟩ := r
  obtain ⟨current', unreleased', released', index', wire', unreleasedIndex', unreleasedWire'⟩ := r'
  simpa [json, Version.text_injective.eq_iff, hversions.eq_iff, hunreleased.eq_iff] using hjson

end Report

/-- **The JSON report is a document that writes the matrix**, whatever the name of the trunk is. By
the grammar its text writes one value only, and that is also what is read off it: an object with
seven fields, of which the first is the current version, the second has the version, the branch and
the project of each unreleased version, and the others are lists of versions. -/
theorem Matrix.isWrittenBy_report_iff (m : Matrix) :
    let versions (vs : List Version) : Json := .array (vs.map fun v => .string v.text)
    let report : Json := .object [
      ("current", .string m.current.text),
      ("unreleased", .array (m.unreleased.map fun u => .object [
        ("version", .string u.version.text),
        ("branch", .string u.branch),
        ("project", .string u.project.path)])),
      ("released", versions m.released),
      ("index_compatible", versions m.indexCompatible),
      ("wire_compatible", versions m.wireCompatible),
      ("unreleased_index_compatible", versions m.unreleasedIndexCompatible),
      ("unreleased_wire_compatible", versions m.unreleasedWireCompatible)]
    (∀ v : Json, v.IsWrittenBy m.report.json.pretty.toList ↔ v = report) ∧
      Json.read? m.report.json.pretty = some report := by
  intro versions report
  have hwritten : report.IsWrittenBy m.report.json.pretty.toList :=
    m.report.printable_json.isWrittenBy_pretty
  refine ⟨fun v => ⟨fun h => h.unique hwritten, ?_⟩, hwritten.read?_eq⟩
  rintro rfl
  exact hwritten

end ReleaseMatrix
