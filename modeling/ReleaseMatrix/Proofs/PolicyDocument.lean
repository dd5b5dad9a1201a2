import ReleaseMatrix.Proofs.JsonReport
import ReleaseMatrix.Proofs.PolicyNumbers

/-!
# Policies are read back

A policy that is written as JSON is read back as it was, whatever its aliases, its legacy majors,
its transitions and its window, as long as its numbers have the width of their fields. A record may
also give some of the fields only. Those that it does not give are taken from the standard policy,
also where that differs from an empty value: a policy without a window has to say so. In which order
the fields come does not matter, nor do fields that a policy does not have.

The fields of a record are found by their names. A record that has no known field twice is known
for its reader once its members are, so that what is read of a field depends on whether the record
gives it, and on nothing else.

## What is proved

* `Json.fields?_document`: the known fields of an object, if no name is given twice.
* `Policy.fieldOr_document`: one field of a record that gives some fields of a policy.
* `Policy.ofJson_override`: the policy that such a record describes.
-/

namespace ReleaseMatrix

/-! ### Lists of pairs -/

section

variable {α β : Type}

/-- A traversal that undoes, member by member, what made the list. -/
theorem mapM_map_eq_some {read : β → Option α} {write : α → β} {xs : List α}
    (h : ∀ x ∈ xs, read (write x) = some x) : (xs.map write).mapM read = some xs := by
  induction xs with
  | nil => rfl
  | cons x xs ih =>
    obtain ⟨hx, hxs⟩ := List.forall_mem_cons.1 h
    rw [List.map_cons, List.mapM_cons, hx, ih hxs]
    rfl

/-- With distinct names, what is found under a name is what the list has under it. -/
theorem lookup_eq_some_iff_mem {l : List (String × α)} (h : (l.map Prod.fst).Nodup) {name : String}
    {x : α} : l.lookup name = some x ↔ (name, x) ∈ l := by
  induction l with
  | nil => simp
  | cons entry l ih =>
    obtain ⟨other, y⟩ := entry
    obtain ⟨hother, hl⟩ := List.nodup_cons.1 h
    rw [List.lookup_cons, List.mem_cons, ← ih hl]
    by_cases hname : name = other
    · subst hname
      have hnone : l.lookup name ≠ some x := fun hx =>
        hother (List.mem_map.2 ⟨_, (ih hl).1 hx, rfl⟩)
      simp [hnone, eq_comm]
    · simp [hname, beq_eq_false_iff_ne.2 hname]

theorem lookup_map_eq_none {l : List (String × α)} {f : α → β} {name : String}
    (h : ∀ entry ∈ l, entry.1 ≠ name) :
    (l.map fun entry => (entry.1, f entry.2)).lookup name = none := by
  rw [List.lookup_eq_none_iff]
  simp only [List.mem_map, forall_exists_index, and_imp]
  rintro _ entry hentry rfl
  exact bne_iff_ne.2 (h entry hentry).symm

end

namespace Json

/-! ### Documents of JSON values -/

theorem itemDocuments_eq_map (items : List Json) : itemDocuments items = items.map document := by
  induction items with
  | nil => rfl
  | cons item items ih => rw [itemDocuments, ih, List.map_cons]

theorem fieldDocuments_eq_map (fields : List (String × Json)) : fieldDocuments fields =
    fields.map fun field => (.scalar (.ofJsonName field.1), field.2.document) := by
  induction fields with
  | nil => rfl
  | cons field fields ih => rw [fieldDocuments, ih, List.map_cons]

/-- A number is read back from the name that its digits make. -/
theorem jsonNumeral?_repr (n : Nat) : jsonNumeral? n.repr = some n := by
  by_cases hn : n = 0
  · subst hn
    rfl
  have hhead := head?_toDigits hn
  rw [jsonNumeral?, Nat.toList_repr]
  split <;> simp_all

theorem repr_injective : Function.Injective Nat.repr := by
  intro m n h
  have hread := jsonNumeral?_repr m
  rw [h, jsonNumeral?_repr] at hread
  exact (Option.some.inj hread).symm

variable {n : Nat}

theorem word?_document (h : n < 0x100000000) : (natural n).document.word? = some n := by
  simp [document, Document.word?, Document.natural?, h]

theorem longWord?_document (h : n < 0x10000000000000000) :
    (natural n).document.longWord? = some n := by
  simp [document, Document.longWord?, Document.natural?, h]

theorem text?_document (s : String) : (string s).document.text? = some s := rfl

theorem version?_document (v : Version) : (string v.text).document.version? = some v := by
  simp [document, Document.version?, Document.text?, Scalar.ofText, Version.ofText_text,
    Except.toOption]

theorem listOf?_document {α : Type} {read : Document → Option α} {write : α → Json} {xs : List α}
    (h : ∀ x ∈ xs, read (write x).document = some x) :
    (array (xs.map write)).document.listOf? read = some xs := by
  rw [document, itemDocuments_eq_map, List.map_map]
  exact mapM_map_eq_some h

theorem naturals_document {ns : List Nat} (h : ∀ n ∈ ns, n < 0x100000000) :
    (naturals ns).document.listOf? Document.word? = some ns :=
  listOf?_document fun n hn => word?_document (h n hn)

/-- The documents of the values of fields, by the names of the fields. -/
def namedDocuments (fields : List (String × Json)) : List (String × Document) :=
  fields.map fun field => (field.1, field.2.document)

@[simp] theorem namedDocuments_nil : namedDocuments [] = [] := rfl

@[simp] theorem namedDocuments_cons (field : String × Json) (fields : List (String × Json)) :
    namedDocuments (field :: fields) = (field.1, field.2.document) :: namedDocuments fields := rfl

/-- The known fields of an object, if none of them is given twice. -/
theorem fields?_document {names : List String} {fields : List (String × Json)}
    (h : ((fields.filter (·.1 ∈ names)).map Prod.fst).Nodup) :
    (object fields).document.fields? names =
      some (namedDocuments (fields.filter (·.1 ∈ names))) := by
  show Document.namedFields names (fieldDocuments fields) = _
  induction fields with
  | nil => rfl
  | cons field fields ih =>
    obtain ⟨name, v⟩ := field
    by_cases hname : name ∈ names
    · rw [List.filter_cons_of_pos (by simpa using hname)] at h ⊢
      obtain ⟨hnew, hrest⟩ := List.nodup_cons.1 h
      have hnone : (namedDocuments (fields.filter (·.1 ∈ names))).lookup name = none :=
        lookup_map_eq_none fun field hfield heq => hnew (List.mem_map.2 ⟨field, hfield, heq⟩)
      simp [fieldDocuments, Document.namedFields, Document.text?, Scalar.ofJsonName, Scalar.ofText,
        ih hrest, hname, hnone]
    · rw [List.filter_cons_of_neg (by simpa using hname)] at h ⊢
      simp [fieldDocuments, Document.namedFields, Document.text?, Scalar.ofJsonName, Scalar.ofText,
        ih h, hname]

end Json

/-! ### The values of a policy -/

theorem LegacyWindow.ofDocument_document {w : LegacyWindow} (h : w.Fits) :
    ofDocument w.json.document = some w := by
  rw [ofDocument, json, Json.fields?_document (by simp)]
  simp [requiredField, List.lookup_cons, Json.word?_document h.untilMajor,
    Json.longWord?_document h.supportedMajors]

theorem Json.optional?_word?_document {n : Option Nat} (h : ∀ major ∈ n, major < 0x100000000) :
    (Json.natural? n).document.optional? Document.word? = some n := by
  cases n with
  | none => rfl
  | some n =>
    have hread := Json.word?_document (h n rfl)
    rw [Json.document] at hread
    simp [Json.natural?, Json.document, Document.optional?, hread]

theorem Transition.ofDocument_document {t : Transition} (h : t.Fits) :
    ofDocument t.json.document = some t := by
  rw [ofDocument, json, Json.fields?_document (by simp)]
  simp [requiredField, fieldOr, List.lookup_cons,
    Json.word?_document h.major, Json.optional?_word?_document h.wirePreviousMajor,
    Json.naturals_document h.extraIndexMajors, Json.naturals_document h.extraWireMajors]

namespace Policy

variable {p : Policy}

theorem aliasesOfDocument_document (h : p.Fits) : aliasesOfDocument
    (Json.object (p.majorAliases.rows.map fun row => (row.1.repr, .natural row.2))).document =
      some p.majorAliases := by
  rw [aliasesOfDocument, Json.document, Json.fieldDocuments_eq_map, List.map_map]
  simp only [Document.entries?, Option.bind_eq_bind, Option.bind_some]
  rw [mapM_map_eq_some, Option.bind_some, Table.ofList_rows]
  · rfl
  · intro row hrow
    obtain ⟨hkey, hvalue⟩ := h.majorAliases row hrow
    have hname : (Document.scalar (.ofJsonName row.1.repr)).word? = some row.1 := by
      simp [Document.word?, Document.natural?, Scalar.ofJsonName, Json.jsonNumeral?_repr, hkey]
    simp [hname, Json.word?_document hvalue]

theorem legacyMajorsOfDocument_document (h : p.Fits) :
    legacyMajorsOfDocument (Json.naturals p.legacyMajors.toList).document =
      some p.legacyMajors := by
  rw [legacyMajorsOfDocument, Json.naturals_document fun n hn => h.legacyMajors n hn]
  simp [SortedSet.ofList_toList]

theorem exists_legacyWindow_document (h : p.Fits) : ∃ v, ("legacy_window", v) ∈ p.jsonFields ∧
    v.document.optional? LegacyWindow.ofDocument = some p.legacyWindow := by
  cases hwindow : p.legacyWindow with
  | none => exact ⟨.null, by simp [jsonFields, hwindow], rfl⟩
  | some window =>
    refine ⟨window.json, by simp [jsonFields, hwindow], ?_⟩
    have hread := LegacyWindow.ofDocument_document (h.legacyWindow window hwindow)
    rw [LegacyWindow.json, Json.document] at hread
    simp [LegacyWindow.json, Json.document, Document.optional?, hread]

theorem transitions_document (h : p.Fits) :
    (Json.array (p.transitions.map Transition.json)).document.listOf? Transition.ofDocument =
      some p.transitions :=
  Json.listOf?_document fun t ht => Transition.ofDocument_document (h.transitions t ht)

/-! ### Some fields of a policy -/

/-- The policy that a field is taken from: `p` if the field has one of the names, and else the
standard policy. -/
def origin (p : Policy) (names : List String) (name : String) : Policy :=
  if name ∈ names then p else standard

/-- The policy that has the fields of `p` with one of the names, and the other fields of the
standard policy. -/
def override (p : Policy) (names : List String) : Policy where
  trunkBranch := (p.origin names "trunk_branch").trunkBranch
  bootstrapVersion := (p.origin names "bootstrap_version").bootstrapVersion
  majorAliases := (p.origin names "major_aliases").majorAliases
  retainedMajors := (p.origin names "retained_majors").retainedMajors
  supportedMajors := (p.origin names "supported_majors").supportedMajors
  legacyWindow := (p.origin names "legacy_window").legacyWindow
  legacyMajors := (p.origin names "legacy_majors").legacyMajors
  transitions := (p.origin names "transitions").transitions

theorem override_fieldNames : p.override fieldNames = p := by
  simp [override, origin, fieldNames]

theorem nodup_fieldNames : fieldNames.Nodup := by decide

theorem nodup_jsonFields : (p.jsonFields.map Prod.fst).Nodup := nodup_fieldNames

variable {names : List String} {unknown fields : List (String × Json)}

/-- The known fields are those that the record gives of the policy. -/
theorem known_perm (hunknown : ∀ field ∈ unknown, field.1 ∉ fieldNames)
    (hfields : fields.Perm (p.jsonFields.filter (·.1 ∈ names) ++ unknown)) :
    (fields.filter (·.1 ∈ fieldNames)).Perm (p.jsonFields.filter (·.1 ∈ names)) := by
  have hown : (p.jsonFields.filter (·.1 ∈ names)).filter (·.1 ∈ fieldNames) =
      p.jsonFields.filter (·.1 ∈ names) :=
    List.filter_eq_self.2 fun field hfield =>
      decide_eq_true (List.mem_map_of_mem (List.mem_of_mem_filter hfield))
  have hnone : unknown.filter (·.1 ∈ fieldNames) = [] :=
    List.filter_eq_nil_iff.2 fun field hfield => by simpa using hunknown field hfield
  have hknown := hfields.filter (·.1 ∈ fieldNames)
  rwa [List.filter_append, hown, hnone, List.append_nil] at hknown

section

variable {known : List (String × Json)}
  (hknown : known.Perm (p.jsonFields.filter (·.1 ∈ names)))

include hknown

theorem nodup_known : (known.map Prod.fst).Nodup :=
  (hknown.map Prod.fst).nodup_iff.2 ((List.filter_sublist.map Prod.fst).nodup nodup_jsonFields)

/-- What is read of a field is the value of the policy, if the field is given, and else the standard
value. -/
theorem fieldOr_document {α : Type} {name : String} {v : Json} {read : Document → Option α}
    (value : Policy → α) (hv : (name, v) ∈ p.jsonFields)
    (hread : read v.document = some (value p)) :
    fieldOr (Json.namedDocuments known) name read (value standard) =
      some (value (p.origin names name)) := by
  rw [fieldOr, origin]
  by_cases hname : name ∈ names
  · have hmem : (name, v) ∈ known :=
      hknown.mem_iff.2 (List.mem_filter.2 ⟨hv, decide_eq_true hname⟩)
    have hnodup : ((Json.namedDocuments known).map Prod.fst).Nodup := by
      rw [Json.namedDocuments, List.map_map]
      exact nodup_known hknown
    have hlookup : (Json.namedDocuments known).lookup name = some v.document :=
      (lookup_eq_some_iff_mem hnodup).2 (List.mem_map_of_mem hmem)
    rw [hlookup, if_pos hname]
    exact hread
  · have hnone : (Json.namedDocuments known).lookup name = none := by
      refine lookup_map_eq_none fun field hfield heq => hname ?_
      obtain ⟨-, hgiven⟩ := List.mem_filter.1 (hknown.mem_iff.1 hfield)
      exact heq ▸ of_decide_eq_true hgiven
    rw [hnone, if_neg hname]

theorem ofFields_document (h : p.Fits) :
    ofFields (Json.namedDocuments known) = some (p.override names) := by
  obtain ⟨window, hwindow, hreadWindow⟩ := exists_legacyWindow_document h
  have hfield {α : Type} (name : String) {v : Json} {read : Document → Option α} :=
    @fieldOr_document p names known hknown α name v read
  have htrunk := hfield "trunk_branch" trunkBranch (by simp [jsonFields])
    (Json.text?_document p.trunkBranch)
  have hbootstrap := hfield "bootstrap_version" bootstrapVersion (by simp [jsonFields])
    (Json.version?_document p.bootstrapVersion)
  have haliases := hfield "major_aliases" majorAliases (by simp [jsonFields])
    (aliasesOfDocument_document h)
  have hretained := hfield "retained_majors" retainedMajors (by simp [jsonFields])
    (Json.word?_document h.retainedMajors)
  have hsupported := hfield "supported_majors" supportedMajors (by simp [jsonFields])
    (Json.longWord?_document h.supportedMajors)
  have hwindow := hfield "legacy_window" legacyWindow hwindow hreadWindow
  have hlegacy := hfield "legacy_majors" legacyMajors (by simp [jsonFields])
    (legacyMajorsOfDocument_document h)
  have htransitions := hfield "transitions" transitions (by simp [jsonFields])
    (transitions_document h)
  rw [ofFields, htrunk, hbootstrap, haliases, hretained, hsupported, hwindow, hlegacy,
    htransitions]
  rfl

end

end Policy

/-! ### Writing and reading -/

namespace Json

theorem printable_naturals (ns : List Nat) : (naturals ns).Printable :=
  .array_map fun n _ => .natural n

theorem printable_natural? (n : Option Nat) : (natural? n).Printable := by
  cases n with
  | none => exact .null
  | some n => exact .natural n

end Json

theorem LegacyWindow.printable_json (w : LegacyWindow) : w.json.Printable := by
  refine .object ?_ (by simp)
  simp [Json.Printable.natural]

theorem Transition.printable_json (t : Transition) : t.json.Printable := by
  refine .object ?_ (by simp)
  simp [Json.Printable.natural, Json.printable_naturals, Json.printable_natural?]

namespace Policy

/-- No name of a field is written twice, nor is a major with an alias. -/
theorem printable_json (p : Policy) : p.json.Printable := by
  have haliases : (Json.object (p.majorAliases.rows.map fun row =>
      (row.1.repr, .natural row.2))).Printable := by
    refine .object (fun field hfield => ?_) ?_
    · obtain ⟨row, -, rfl⟩ := List.mem_map.1 hfield
      exact .natural row.2
    · have hkeys : (p.majorAliases.rows.map Prod.fst).Nodup :=
        nodup_of_pairwise p.majorAliases.keys_ascending
      have hnames := hkeys.map Json.repr_injective
      rw [List.map_map] at hnames ⊢
      exact hnames
  have htransitions : (Json.array (p.transitions.map Transition.json)).Printable :=
    .array_map fun t _ => t.printable_json
  refine .object ?_ nodup_jsonFields
  cases hwindow : p.legacyWindow with
  | none =>
    simp [jsonFields, hwindow, haliases, htransitions, Json.printable_naturals,
      Json.Printable.natural, Json.Printable.string, Json.Printable.null]
  | some window =>
    simp [jsonFields, hwindow, haliases, htransitions, Json.printable_naturals,
      window.printable_json, Json.Printable.natural, Json.Printable.string]

variable {p : Policy}

/-- The policy with some fields of `p`, whatever else the record has. -/
theorem ofJson_object (h : p.Fits) (names : List String) (unknown : List (String × Json))
    {fields : List (String × Json)} (hunknown : ∀ field ∈ unknown, field.1 ∉ fieldNames)
    (hfields : fields.Perm (p.jsonFields.filter (·.1 ∈ names) ++ unknown)) :
    ofJson (.object fields) = some (p.override names) := by
  have hknown := known_perm hunknown hfields
  rw [ofJson, ofDocument, Json.fields?_document (nodup_known hknown)]
  exact ofFields_document hknown h

theorem ofJson_json (h : p.Fits) : ofJson p.json = some p := by
  have hall : p.jsonFields.filter (·.1 ∈ fieldNames) = p.jsonFields :=
    List.filter_eq_self.2 fun field hfield => decide_eq_true (List.mem_map_of_mem hfield)
  have hgiven := ofJson_object h fieldNames [] (by simp) (by rw [hall, List.append_nil])
  rwa [override_fieldNames] at hgiven

/-- The policies that fit are those that a JSON object can describe. -/
theorem fits_iff_exists_ofJson : p.Fits ↔ ∃ v, ofJson v = some p := by
  constructor
  · exact fun h => ⟨p.json, ofJson_json h⟩
  · rintro ⟨v, h⟩
    cases v with
    | object fields =>
      obtain ⟨known, -, hknown⟩ := Option.bind_eq_some_iff.1 h
      exact fits_of_ofFields hknown
    | _ => simp [ofJson] at h

/-- **A policy is read back from any choice of its fields**, for every policy whose numbers have the
width of their fields. A record that has the fields with some of the names as they are written for
the policy, and beside them any fields that no policy has, in any order, describes the policy that
has these fields and all others from the standard policy. So does every text that writes the record.
With all fields it is the policy itself, and so it is for the text that is printed for it. -/
theorem ofJson_override (h : p.Fits) :
    (∀ (names : List String) (unknown fields : List (String × Json)),
      (∀ field ∈ unknown, field.1 ∉ fieldNames) →
      fields.Perm (p.jsonFields.filter (·.1 ∈ names) ++ unknown) →
      ofJson (.object fields) = some (p.override names) ∧
        ∀ text : String, (Json.object fields).IsWrittenBy text.toList →
          (Json.read? text).bind ofJson = some (p.override names)) ∧
    ofJson p.json = some p ∧ (Json.read? p.json.pretty).bind ofJson = some p := by
  refine ⟨fun names unknown fields hunknown hfields => ?_, ofJson_json h, ?_⟩
  · have hread := ofJson_object h names unknown hunknown hfields
    refine ⟨hread, fun text htext => ?_⟩
    rw [htext.read?_eq, Option.bind_some, hread]
  · rw [p.printable_json.read?_pretty, Option.bind_some, ofJson_json h]

/-- A policy without a window and with a transition for the last major there can be: a record that
gives these two fields, behind a remark, leaves the numbers of retained and of supported majors to
the standard policy. -/
theorem ofJson_override_lastMajor :
    let transition : Transition := {
      major := 0xFFFFFFFF, wirePreviousMajor := none
      extraIndexMajors := [3], extraWireMajors := [] }
    let p : Policy := { standard with
      retainedMajors := 0xFFFFFFFF, supportedMajors := 0xFFFFFFFFFFFFFFFF
      legacyWindow := none, transitions := [transition] }
    let fields := [("remark", .bool true), ("transitions", .array [transition.json]),
      ("legacy_window", .null)]
    p.Fits ∧ ofJson (.object fields) =
        some { standard with legacyWindow := none, transitions := [transition] } ∧
      ofJson p.json = some p := by
  intro transition p fields
  have hfits : p.Fits := {
    majorAliases := fits_standard.majorAliases
    retainedMajors := by decide
    supportedMajors := by decide
    legacyWindow := by simp [p]
    legacyMajors := fits_standard.legacyMajors
    transitions := by
      intro t ht
      obtain rfl : t = transition := by simpa [p] using ht
      constructor <;> simp [transition] }
  obtain ⟨hread, hself, -⟩ := ofJson_override hfits
  have hfields := (hread ["legacy_window", "transitions"] [("remark", .bool true)] fields
    (by simp [fieldNames]) (List.reverse_perm [_, _, _])).1
  exact ⟨hfits, hfields, hself⟩

end Policy

end ReleaseMatrix
