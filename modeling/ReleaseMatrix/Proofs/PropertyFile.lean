import ReleaseMatrix.Config

/-!
# What a properties file says of a key

A line gives a value to a key if it is no comment and has a separator: the key is what stands before
the first separator and the value is what stands behind it, both without the white space around
them. A key has the value that the first line with that key gives, whatever the other lines hold; if
no line has it, it has none.

So an entry may be written with either separator and with any white space within the line, and its
value may hold both separators, since only the first one on the line counts. A key, on the other
hand, can be written on a line as it is only if it has no separator and does not begin like a
comment (`Properties.IsKey`).

## What is proved

* `Properties.entry?_eq_some_iff`, `Properties.Writes.defines`: which lines define a key, and how an
  entry can be written.
* `Properties.read_definition`: what reading the value of a key gives.
-/

namespace ReleaseMatrix

/-- The first of the members from which something comes for a key is the one that is looked up. -/
theorem lookup_filterMap_eq_some_iff {α β κ : Type} [BEq κ] [LawfulBEq κ] {f : α → Option (κ × β)}
    {xs : List α} {key : κ} {value : β} :
    (xs.filterMap f).lookup key = some value ↔ ∃ earlier x later, xs = earlier ++ x :: later ∧
      (∀ y ∈ earlier, ∀ value', f y ≠ some (key, value')) ∧ f x = some (key, value) := by
  rw [List.lookup_eq_some_iff]
  constructor
  · rintro ⟨entries, entries', h, hne⟩
    obtain ⟨before, rest, rfl, rfl, hrest⟩ := List.filterMap_eq_append_iff.1 h
    obtain ⟨skipped, x, later, rfl, hskipped, hx, -⟩ := List.filterMap_eq_cons_iff.1 hrest
    refine ⟨before ++ skipped, x, later, (List.append_assoc _ _ _).symm, ?_, hx⟩
    intro y hy value' hvalue
    rcases List.mem_append.1 hy with hy | hy
    · have hkey := hne (key, value') (List.mem_filterMap.2 ⟨y, hy, hvalue⟩)
      simp at hkey
    · rw [hskipped y hy] at hvalue
      cases hvalue
  · rintro ⟨earlier, x, later, rfl, hearlier, hx⟩
    refine ⟨earlier.filterMap f, later.filterMap f, ?_, ?_⟩
    · rw [List.filterMap_append, List.filterMap_cons_some hx]
    · rintro ⟨key', value'⟩ hmem
      obtain ⟨y, hy, hvalue⟩ := List.mem_filterMap.1 hmem
      simp only [bne_iff_ne, ne_eq]
      rintro rfl
      exact hearlier y hy value' hvalue

theorem lookup_filterMap_eq_none_iff {α β κ : Type} [BEq κ] [LawfulBEq κ]
    {f : α → Option (κ × β)} {xs : List α} {key : κ} :
    (xs.filterMap f).lookup key = none ↔ ∀ x ∈ xs, ∀ value, f x ≠ some (key, value) := by
  rw [List.lookup_eq_none_iff]
  constructor
  · intro h x hx value hvalue
    have hkey := h (key, value) (List.mem_filterMap.2 ⟨x, hx, hvalue⟩)
    simp at hkey
  · rintro h ⟨key', value⟩ hmem
    obtain ⟨x, hx, hvalue⟩ := List.mem_filterMap.1 hmem
    simp only [bne_iff_ne, ne_eq]
    rintro rfl
    exact h x hx value hvalue

namespace Properties

open Text

/-! ### The lines that define a key -/

/-- A line that gives a value to a key. -/
inductive Defines (key value line : List Char) : Prop where
  /-- The trimmed line is no comment, and it has a separator: before the first one stands the key,
  and behind it the value. -/
  | intro {name rest : List Char} {separator : Char} (hline : trim line = name ++ separator :: rest)
      (hseparator : separator = '=' ∨ separator = ':') (hname : '=' ∉ name ∧ ':' ∉ name)
      (hcomment : (trim line).head? ≠ some '#' ∧ (trim line).head? ≠ some '!')
      (hkey : trim name = key) (hvalue : trim rest = value)

variable {key value line line' rest : List Char}

theorem isSeparator_iff {c : Char} : isSeparator c ↔ c = '=' ∨ c = ':' := by
  simp [isSeparator]

theorem forall_not_isSeparator_iff {s : List Char} :
    (∀ c ∈ s, ¬ isSeparator c) ↔ '=' ∉ s ∧ ':' ∉ s := by
  constructor
  · exact fun h => ⟨fun hmem => h _ hmem (by decide), fun hmem => h _ hmem (by decide)⟩
  · rintro ⟨hequals, hcolon⟩ c hc hseparator
    rcases isSeparator_iff.1 hseparator with rfl | rfl
    · exact hequals hc
    · exact hcolon hc

theorem isComment_iff {s : List Char} : isComment s ↔ s.head? = some '#' ∨ s.head? = some '!' := by
  simp [isComment]

/-- A line is an entry for a key exactly if it defines the key. -/
theorem entry?_eq_some_iff : entry? line = some (key, value) ↔ Defines key value line := by
  unfold entry?
  constructor
  · intro h
    split at h
    · cases h
    · rename_i hcomment
      obtain ⟨⟨name, rest⟩, hcut, heq⟩ := Option.map_eq_some_iff.1 h
      obtain ⟨hkey, hvalue⟩ := Prod.mk.inj heq
      obtain ⟨hname, separator, hseparator, hline⟩ := cut?_eq_some_iff.1 hcut
      rw [isComment_iff, not_or] at hcomment
      exact ⟨hline, isSeparator_iff.1 hseparator, forall_not_isSeparator_iff.1 hname, hcomment,
        hkey, hvalue⟩
  · rintro ⟨hline, hseparator, hname, hcomment, rfl, rfl⟩
    rw [if_neg (by rw [isComment_iff, not_or]; exact hcomment)]
    rw [cut?_eq_some_iff.2 ⟨forall_not_isSeparator_iff.2 hname, _,
      isSeparator_iff.2 hseparator, hline⟩]
    rfl

/-- White space around a line does not matter. -/
theorem Defines.of_trim_eq (h : Defines key value line) (htrim : trim line' = trim line) :
    Defines key value line' := by
  obtain ⟨hline, hseparator, hname, hcomment, hkey, hvalue⟩ := h
  rw [← htrim] at hline hcomment
  exact ⟨hline, hseparator, hname, hcomment, hkey, hvalue⟩

/-! ### Entries as they are written -/

/-- A key that can be written on a line as it is. -/
structure IsKey (key : List Char) : Prop where
  /-- There is no white space around it. -/
  tight : Tight key
  /-- It has no separator. -/
  no_separator : '=' ∉ key ∧ ':' ∉ key
  /-- It does not begin like a comment. -/
  no_comment : key.head? ≠ some '#' ∧ key.head? ≠ some '!'

/-- A line on which an entry is written: a key, a separator and a value, with any white space around
each of them. -/
inductive Writes (key value : List Char) : List Char → Prop where
  /-- The value has no white space around it; it may have separators. -/
  | intro {before around around' behind : List Char} {separator : Char} (hkey : IsKey key)
      (hvalue : Tight value) (hseparator : separator = '=' ∨ separator = ':')
      (hblank : ∀ c ∈ before ++ around ++ around' ++ behind, isBlank c) :
      Writes key value
        (before ++ key ++ around ++ separator :: (around' ++ value ++ behind))

theorem isSeparator_not_isBlank {c : Char} (h : c = '=' ∨ c = ':') : ¬ isBlank c := by
  rcases h with rfl | rfl <;> decide

/-- Trimming brings no separator in. -/
theorem not_mem_trimStart {c : Char} {s : List Char} (h : c ∉ s) : c ∉ trimStart s :=
  fun hmem => h ((List.dropWhile_sublist _).mem hmem)

/-- A line on which an entry is written defines its key. -/
theorem Writes.defines (h : Writes key value line) : Defines key value line := by
  obtain @⟨before, around, around', behind, separator, hkey, hvalue, hseparator, hblank⟩ := h
  obtain ⟨⟨⟨hbefore, haround⟩, haround'⟩, hbehind⟩ : (((∀ c ∈ before, isBlank c) ∧
      ∀ c ∈ around, isBlank c) ∧ ∀ c ∈ around', isBlank c) ∧ ∀ c ∈ behind, isBlank c := by
    simpa only [List.forall_mem_append] using hblank
  have htrimKey : trim (before ++ key ++ around) = key := by
    rw [trim_append_right haround, trim_append_left hbefore, trim_eq_self_of_tight hkey.tight]
  have htrimValue : trim (around' ++ value ++ behind) = value := by
    rw [trim_append_right hbehind, trim_append_left haround', trim_eq_self_of_tight hvalue]
  have hline := trim_append_cons (before ++ key ++ around) (around' ++ value ++ behind)
    (isSeparator_not_isBlank hseparator)
  -- a separator is no white space, so the only ones before this one could be in the key
  have hname {c : Char} (hc : ¬ isBlank c) (hmem : c ∉ key) :
      c ∉ trimStart (before ++ key ++ around) := by
    refine not_mem_trimStart fun h => ?_
    simp only [List.mem_append, hmem, or_false] at h
    exact h.elim (fun h => hc (hbefore c h)) fun h => hc (haround c h)
  -- and the line begins as the key does, or with the separator if the key is empty
  have hhead : (trim (before ++ key ++ around ++ separator ::
      (around' ++ value ++ behind))).head? = key.head?.or (some separator) := by
    rw [hline, List.head?_append, head?_trimStart, htrimKey]
    rfl
  have hcomment {c : Char} (hc : c ≠ separator) (hkeyHead : key.head? ≠ some c) :
      key.head?.or (some separator) ≠ some c := by
    cases hfirst : key.head? with
    | none => simpa [hfirst] using hc.symm
    | some d => simpa [hfirst] using hkeyHead
  refine ⟨hline, hseparator, ⟨hname (by decide) hkey.no_separator.1,
    hname (by decide) hkey.no_separator.2⟩, ?_, (trim_trimStart _).trans htrimKey,
    (trim_trimEnd _).trans htrimValue⟩
  rw [hhead]
  constructor
  · refine hcomment ?_ hkey.no_comment.1
    rcases hseparator with rfl | rfl <;> decide
  · refine hcomment ?_ hkey.no_comment.2
    rcases hseparator with rfl | rfl <;> decide

/-- An empty line is no entry. -/
theorem Writes.ne_nil (h : Writes key value line) : line ≠ [] := by
  cases h
  simp

/-! ### The value of a key -/

variable {text name word : String} {earlier : List (List Char)} {around : Surroundings}
  {path : String}

/-- The first line that defines a key gives its value. -/
theorem value?_eq_some_iff : value? text name = some word ↔ ∃ earlier line later,
    lines text.toList = earlier ++ line :: later ∧
      (∀ other ∈ earlier, ∀ value, ¬ Defines name.toList value other) ∧
      Defines name.toList word.toList line := by
  have hword : value? text name = some word ↔
      (entries text).lookup name.toList = some word.toList := by
    rw [value?, Option.map_eq_some_iff]
    constructor
    · rintro ⟨value, hvalue, rfl⟩
      rw [hvalue, String.toList_ofList]
    · intro h
      exact ⟨word.toList, h, String.ofList_toList⟩
  rw [hword, entries, lookup_filterMap_eq_some_iff]
  simp only [ne_eq, entry?_eq_some_iff]

theorem value?_eq_none_iff : value? text name = none ↔
    ∀ line ∈ lines text.toList, ∀ value, ¬ Defines name.toList value line := by
  rw [value?, Option.map_eq_none_iff, entries, lookup_filterMap_eq_none_iff]
  simp only [ne_eq, entry?_eq_some_iff]

/-- An entry behind lines that do not define its key is the first definition of the key. -/
theorem value?_of_writes (hline : Writes name.toList word.toList line) (hnewline : '\n' ∉ line)
    (hearlier : ∀ other ∈ earlier, '\n' ∉ other ∧ ∀ value, ¬ Defines name.toList value other)
    (hrest : rest = [] ∨ rest.head? = some '\n')
    (htext : text.toList = earlier.flatMap (· ++ ['\n']) ++ (line ++ rest)) :
    value? text name = some word := by
  obtain ⟨first, later, hlines, htrim⟩ := exists_lines_append hline.ne_nil hnewline hrest
  refine value?_eq_some_iff.2 ⟨earlier.map withoutReturn, first, later, ?_, ?_,
    hline.defines.of_trim_eq htrim⟩
  · rw [htext, lines_flatMap_append _ fun other hother => (hearlier other hother).1, hlines]
  · intro other hother value hdefines
    obtain ⟨other, hmem, rfl⟩ := List.mem_map.1 hother
    exact (hearlier other hmem).2 value (hdefines.of_trim_eq (trim_withoutReturn other).symm)

theorem run_read (hfile : around.files path = .ok text) :
    (read path name).run around = ("", .ok (value? text name)) := by
  rw [read, Script.run_bind, Script.run_readFile, hfile]
  rfl

/-- **A key has the value of its first definition**, whatever the other lines of a readable file
hold; if no line defines it, it has none. So an entry is read back, with either separator and any
white space within its line, behind lines that do not define its key. -/
theorem read_definition (name : String) (hfile : around.files path = .ok text) :
    (∃ result, (read path name).run around = ("", .ok result) ∧
      (∀ word, result = some word ↔ ∃ earlier line later,
        lines text.toList = earlier ++ line :: later ∧
        (∀ other ∈ earlier, ∀ value, ¬ Defines name.toList value other) ∧
        Defines name.toList word.toList line) ∧
      (result = none ↔ ∀ line ∈ lines text.toList, ∀ value, ¬ Defines name.toList value line)) ∧
    ∀ (word : String) (earlier : List (List Char)) (line rest : List Char),
      Writes name.toList word.toList line → '\n' ∉ line →
      (∀ other ∈ earlier, '\n' ∉ other ∧ ∀ value, ¬ Defines name.toList value other) →
      (rest = [] ∨ rest.head? = some '\n') →
      text.toList = earlier.flatMap (· ++ ['\n']) ++ (line ++ rest) →
      (read path name).run around = ("", .ok (some word)) := by
  rw [run_read hfile]
  constructor
  · exact ⟨value? text name, rfl, fun word => value?_eq_some_iff, value?_eq_none_iff⟩
  · intro word earlier line rest hline hnewline hearlier hrest htext
    rw [value?_of_writes hline hnewline hearlier hrest htext]

/-- A file in which a comment, a value and a later entry hold the key, too, and in which the value of
the key has both separators. -/
def shadowedKeys : String :=
  "#opensearch=1.0.0\nbuild = opensearch: 1\n\topensearch\u00a0:  2.1.0=beta:3 \r\nopensearch=9.9.9"

/-- The first entry for the key counts, and its first separator. -/
theorem read_definition_shadowedKeys :
    (read "gradle.properties" "opensearch").run ⟨fun _ => .ok shadowedKeys, fun _ => none⟩ =
      ("", .ok (some "2.1.0=beta:3")) := by
  have hfile : (⟨fun _ => .ok shadowedKeys, fun _ => none⟩ : Surroundings).files
      "gradle.properties" = .ok shadowedKeys := rfl
  have hkey : IsKey "opensearch".toList :=
    ⟨⟨by simp [isBlank], by simp [isBlank]⟩, ⟨by decide, by decide⟩, by decide, by decide⟩
  have hvalue : Tight "2.1.0=beta:3".toList := ⟨by simp [isBlank], by simp [isBlank]⟩
  have hline : Writes "opensearch".toList "2.1.0=beta:3".toList
      "\topensearch\u00a0:  2.1.0=beta:3 \r".toList :=
    @Writes.intro _ _ "\t".toList "\u00a0".toList "  ".toList " \r".toList ':' hkey hvalue (.inr rfl)
      (by simp [isBlank])
  have hcomment : entry? "#opensearch=1.0.0".toList = none := by decide +kernel
  have hbuild : entry? "build = opensearch: 1".toList =
      some ("build".toList, "opensearch: 1".toList) := by decide +kernel
  have hearlier : ∀ other ∈ ["#opensearch=1.0.0".toList, "build = opensearch: 1".toList],
      '\n' ∉ other ∧ ∀ value, ¬ Defines "opensearch".toList value other := by
    simp only [List.forall_mem_cons, List.not_mem_nil, false_imp_iff, forall_const, and_true,
      ← entry?_eq_some_iff, hcomment, hbuild]
    exact ⟨⟨by decide, by simp⟩, by decide, by simp⟩
  exact (read_definition "opensearch" hfile).2 _ _ _ "\nopensearch=9.9.9".toList hline (by decide)
    hearlier (.inr rfl) (by simp [shadowedKeys])

end Properties

end ReleaseMatrix
