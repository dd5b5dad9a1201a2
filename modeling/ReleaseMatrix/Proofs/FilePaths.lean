import Mathlib.Data.List.TakeWhile
import ReleaseMatrix.FilePath
import ReleaseMatrix.Files
import ReleaseMatrix.Proofs.Collection

/-!
# Paths below a directory

A path is plain if it is made of names: it is not empty, is relative, has no empty component and no
single or two points among its components. For plain paths, putting a path behind a directory is
nothing but writing a slash between the two, and the parent of what this gives is the directory.

A tree of files can be moved below a directory as a whole. Where a plain path led to a file, the
path behind the directory leads to that file, as long as the system lets it be followed: it has
limits on the size of a path and of its components.

## What is proved

* `FilePath.parent_below`, `FilePath.join_of_isPlain`: the parent of a path and the path behind a
  directory.
* `FileTree.files_below`: what is read of a tree that was moved.
-/

namespace ReleaseMatrix

open Text

/-! ### Plain paths -/

/-- The name of a file or a directory, as it can stand in a path. -/
structure IsComponent (name : String) : Prop where
  /-- There is a name. -/
  ne_empty : name ≠ ""
  /-- A slash would part it. -/
  slash_not_mem : '/' ∉ name.toList
  /-- A single point leads nowhere. -/
  ne_point : name ≠ "."
  /-- Two points lead to the directory above. -/
  ne_points : name ≠ ".."

instance (name : String) : Decidable (IsComponent name) :=
  decidable_of_iff (name ≠ "" ∧ '/' ∉ name.toList ∧ name ≠ "." ∧ name ≠ "..")
    ⟨fun ⟨h, h', h'', h'''⟩ => ⟨h, h', h'', h'''⟩, fun ⟨h, h', h'', h'''⟩ => ⟨h, h', h'', h'''⟩⟩

/-- A path that is made of names. -/
def IsPlain (path : String) : Prop := ∀ name ∈ FileTree.components path, IsComponent name

instance (path : String) : Decidable (IsPlain path) :=
  inferInstanceAs (Decidable (∀ name ∈ FileTree.components path, IsComponent name))

namespace FileTree

theorem components_of_isComponent {name : String} (h : IsComponent name) :
    components name = [name] := by
  rw [components, pieces_of_not_mem h.slash_not_mem, List.map_singleton, String.ofList_toList]

theorem components_below (directory path : String) :
    components (directory ++ "/" ++ path) = components directory ++ components path := by
  have hchars : (directory ++ "/" ++ path).toList = directory.toList ++ '/' :: path.toList := by
    simp
  rw [components, hchars, pieces_append_separator, List.map_append, components, components]

theorem components_ne_nil (path : String) : components path ≠ [] := by
  simpa [components] using pieces_ne_nil '/' path.toList

end FileTree

open FileTree

section

variable {directory name path : String}

theorem IsComponent.ne_slash (h : IsComponent name) : ∀ c ∈ name.toList.reverse, c ≠ '/' := by
  rintro c hc rfl
  exact h.slash_not_mem (List.mem_reverse.1 hc)

theorem IsComponent.isPlain (h : IsComponent name) : IsPlain name := by
  intro component hcomponent
  rw [components_of_isComponent h, List.mem_singleton] at hcomponent
  exact hcomponent ▸ h

theorem IsPlain.below (hdirectory : IsPlain directory) (hpath : IsPlain path) :
    IsPlain (directory ++ "/" ++ path) := by
  intro component hcomponent
  rw [components_below, List.mem_append] at hcomponent
  exact hcomponent.elim (hdirectory component) (hpath component)

theorem IsPlain.isComponent_of_mem (h : IsPlain path) {piece : List Char}
    (hpiece : piece ∈ pieces '/' path.toList) : IsComponent (String.ofList piece) :=
  h _ (List.mem_map_of_mem hpiece)

theorem IsPlain.ne_empty (h : IsPlain path) : path ≠ "" := by
  rintro rfl
  exact (h.isComponent_of_mem (List.mem_singleton_self [])).ne_empty rfl

theorem IsPlain.not_isAbsolute (h : IsPlain path) : ¬ FilePath.isAbsolute path := by
  intro habsolute
  obtain ⟨rest, hrest⟩ := List.head?_eq_some_iff.1 (of_decide_eq_true habsolute)
  have hfirst : [] ∈ pieces '/' path.toList := by
    rw [hrest, pieces, if_pos rfl]
    exact List.mem_cons_self
  exact (h.isComponent_of_mem hfirst).ne_empty rfl

end

/-! ### Joining paths and taking parents -/

namespace FilePath

variable {directory name path : String}

/-- What stands behind the last slash is a piece. -/
theorem last_mem_pieces (s : List Char) :
    (s.reverse.takeWhile (· ≠ '/')).reverse ∈ pieces '/' s := by
  have hsplit := s.reverse.takeWhile_append_dropWhile (p := (· ≠ '/'))
  have hnot : '/' ∉ (s.reverse.takeWhile (· ≠ '/')).reverse := by
    intro hmem
    simpa using List.mem_takeWhile_imp (List.mem_reverse.1 hmem)
  generalize s.reverse.takeWhile (· ≠ '/') = last at hsplit hnot ⊢
  cases hrest : s.reverse.dropWhile (· ≠ '/') with
  | nil =>
    rw [hrest, List.append_nil] at hsplit
    rw [hsplit, List.reverse_reverse] at hnot ⊢
    rw [pieces_of_not_mem hnot]
    exact List.mem_singleton_self s
  | cons c rest =>
    have hslash : c = '/' := by
      have hhead := List.head?_dropWhile_not (· ≠ '/') s.reverse
      rw [hrest] at hhead
      simpa using hhead
    rw [hrest, hslash] at hsplit
    have hs : s = rest.reverse ++ '/' :: last.reverse := by
      rw [← s.reverse_reverse, ← hsplit]
      simp
    rw [hs, pieces_append_separator, pieces_of_not_mem hnot]
    simp

/-- A path that ends in a name ends in no empty component and in no single point. -/
theorem dropEmptyComponents_eq_self {s : List Char} (hempty : s.takeWhile (· ≠ '/') ≠ [])
    (hpoint : s.takeWhile (· ≠ '/') ≠ ['.']) : dropEmptyComponents s = s := by
  match s with
  | [] => rfl
  | [c] => rfl
  | c :: d :: rest =>
    have hc : c ≠ '/' := by
      rintro rfl
      exact hempty rfl
    have hd : ¬ (c = '.' ∧ d = '/') := by
      rintro ⟨rfl, rfl⟩
      exact hpoint rfl
    rw [dropEmptyComponents, if_neg hc, if_neg hd]

theorem dropEmptyComponents_reverse (h : IsPlain path) :
    dropEmptyComponents path.toList.reverse = path.toList.reverse := by
  have hlast := h.isComponent_of_mem (last_mem_pieces path.toList)
  refine dropEmptyComponents_eq_self (fun hnil => hlast.ne_empty ?_) fun hpoint => hlast.ne_point ?_
  · rw [hnil]
    rfl
  · rw [hpoint]
    rfl

/-- A bare name has no directory before it. -/
theorem parent_of_isComponent (h : IsComponent name) : parent name = "" := by
  have hrun : name.toList.reverse.dropWhile (· ≠ '/') = [] := by
    simpa using h.ne_slash
  rw [parent, dropEmptyComponents_reverse h.isPlain, hrun]
  rfl

/-- The parent of a name in a directory is the directory. -/
theorem parent_below (hdirectory : IsPlain directory) (hname : IsComponent name) :
    parent (directory ++ "/" ++ name) = directory := by
  have hreverse : (directory ++ "/" ++ name).toList.reverse =
      name.toList.reverse ++ '/' :: directory.toList.reverse := by simp
  have hrun : ((directory ++ "/" ++ name).toList.reverse).dropWhile (· ≠ '/') =
      '/' :: directory.toList.reverse := by
    rw [hreverse, dropWhile_run_append (by simpa using hname.ne_slash) (by simp)]
  have hslash : dropEmptyComponents ('/' :: directory.toList.reverse) =
      dropEmptyComponents directory.toList.reverse := by
    cases hchars : directory.toList.reverse with
    | nil => exact absurd (by simpa using hchars) hdirectory.ne_empty
    | cons c rest => rw [dropEmptyComponents, if_pos rfl]
  rw [parent, dropEmptyComponents_reverse (hdirectory.below hname.isPlain), hrun, hslash,
    dropEmptyComponents_reverse hdirectory, List.reverse_reverse, String.ofList_toList]

theorem join_empty (path : String) : join "" path = path := by simp [join]

theorem join_of_isAbsolute (h : isAbsolute path) (directory : String) :
    join directory path = path := if_pos (.inl h)

theorem join_of_isPlain (hdirectory : IsPlain directory) (hpath : IsPlain path) :
    join directory path = directory ++ "/" ++ path := by
  have hlast : directory.toList.getLast? ≠ some '/' := by
    intro hslash
    have hcomponent := hdirectory.isComponent_of_mem (last_mem_pieces directory.toList)
    obtain ⟨front, hfront⟩ := List.getLast?_eq_some_iff.1 hslash
    refine hcomponent.ne_empty ?_
    simp [hfront]
  rw [join, if_neg (not_or.2 ⟨hpath.not_isAbsolute, hdirectory.ne_empty⟩), if_neg hlast]

end FilePath

/-! ### Trees below a directory -/

namespace FileTree

/-- The tree whose files and directories lie below a directory. -/
def below (tree : FileTree) (directory : String) : FileTree where
  entries := tree.entries.map fun entry => (components directory ++ entry.1, entry.2)

/-- Where a path has led, seen from above the directory. -/
def Place.below (place : Place) (directory : String) : Place :=
  match place with
  | .inside above => .inside (above ++ (components directory).reverse)
  | .outside => .outside
  | .file bytes => .file bytes

/-- The working directory of the tree is a directory. -/
def HasRoot (tree : FileTree) : Prop := ∀ bytes, tree.entries.lookup [] ≠ some (.file bytes)

/-- The system lets the path be followed behind the directory: the path is not too long, and in the
directory no name is too long or has a NUL. -/
structure Allows (directory path : String) : Prop where
  /-- There is no NUL in the directory. -/
  nul_not_mem : '\x00' ∉ directory.toList
  /-- No name in the directory is too long. -/
  components_le : ∀ name ∈ components directory, name.utf8ByteSize ≤ maxComponentSize
  /-- The path is not too long. -/
  path_le : (directory ++ "/" ++ path).utf8ByteSize ≤ maxPathSize

variable {tree : FileTree} {directory path : String}

/-- A look-up does not see what all keys begin with. -/
theorem lookup_map_append {α : Type} (above place : List String)
    (entries : List (List String × α)) :
    (entries.map fun entry => (above ++ entry.1, entry.2)).lookup (above ++ place) =
      entries.lookup place := by
  induction entries with
  | nil => rfl
  | cons entry entries ih =>
    have hbeq : (above ++ place == above ++ entry.1) = (place == entry.1) := by
      rw [Bool.eq_iff_iff, beq_iff_eq, beq_iff_eq, List.append_cancel_left_eq]
    rw [List.map_cons, List.lookup_cons, List.lookup_cons, ih, hbeq]

/-- At a place below the directory is what was there in the tree. -/
theorem entry?_below (tree : FileTree) (directory : String) (place : List String) :
    entry? (tree.below directory) (components directory ++ place) = tree.entry? place := by
  have hlookup : (tree.below directory).entries.lookup (components directory ++ place) =
      tree.entries.lookup place := lookup_map_append _ _ _
  have hany : (tree.below directory).entries.any
      ((components directory ++ place).isPrefixOf ·.1) =
        tree.entries.any (place.isPrefixOf ·.1) := by
    rw [Bool.eq_iff_iff]
    simp [below, List.prefix_append_right_inj]
  unfold entry?
  rw [hany, hlookup]

theorem entry?_nil (hroot : tree.HasRoot) (hentries : tree.entries ≠ []) :
    tree.entry? [] = some .directory := by
  unfold entry?
  cases hlookup : tree.entries.lookup [] with
  | none =>
    obtain ⟨entry, hentry⟩ := List.exists_mem_of_ne_nil _ hentries
    exact if_pos (List.any_eq_true.2 ⟨entry, hentry, rfl⟩)
  | some entry =>
    cases entry with
    | file bytes => exact absurd hlookup (hroot bytes)
    | directory => rfl

/-- The directories on the way to the tree are there. -/
theorem entry?_below_of_prefix (hroot : tree.HasRoot) (hentries : tree.entries ≠ [])
    {front back : List String} (h : front ++ back = components directory) :
    entry? (tree.below directory) front = some .directory := by
  cases back with
  | nil =>
    -- the directory itself, which is the working directory of the tree
    have hplace := entry?_below tree directory []
    rwa [← h, List.append_nil, List.append_nil, entry?_nil hroot hentries] at hplace
  | cons name back =>
    -- a directory above it, whose place is too short for an entry
    have hlookup : (tree.below directory).entries.lookup front = none := by
      rw [List.lookup_eq_none_iff]
      simp only [below, ← h, List.mem_map, forall_exists_index, and_imp]
      rintro _ entry - rfl
      simp
    have hany : (tree.below directory).entries.any (front.isPrefixOf ·.1) := by
      obtain ⟨entry, hentry⟩ := List.exists_mem_of_ne_nil _ hentries
      refine List.any_eq_true.2 ⟨_, List.mem_map_of_mem hentry, ?_⟩
      simp [← h]
    unfold entry?
    rw [hlookup]
    exact if_pos hany

/-- A name leads from a directory of the tree to what has this name there. -/
theorem step_eq_ok_iff {place place' : Place} {name : String} (hname : IsComponent name) :
    tree.step place name = .ok place' ↔ ∃ above, place = .inside above ∧
      name.utf8ByteSize ≤ maxComponentSize ∧
      ((∃ bytes, tree.entry? (name :: above).reverse = some (.file bytes) ∧
          place' = .file bytes) ∨
        tree.entry? (name :: above).reverse = some .directory ∧
          place' = .inside (name :: above)) := by
  have hempty := hname.ne_empty
  have hpoint := hname.ne_point
  have hpoints := hname.ne_points
  cases place with
  | file bytes => simp [step]
  | outside =>
    simp only [step, hempty, hpoint, hpoints, or_self, if_false]
    split <;> simp
  | inside above =>
    simp only [step, hempty, hpoint, hpoints, or_self, if_false, Place.inside.injEq,
      exists_eq_left']
    generalize tree.entry? (name :: above).reverse = found
    split
    · rename_i hlong
      simp [Nat.not_le.2 hlong]
    · rename_i hshort
      rcases found with _ | bytes | _ <;> simp [Nat.not_lt.1 hshort, eq_comm]

/-- The names of a directory lead to it. -/
theorem foldlM_step_directory (hroot : tree.HasRoot) (hentries : tree.entries ≠ [])
    (hdirectory : IsPlain directory)
    (hsize : ∀ name ∈ components directory, name.utf8ByteSize ≤ maxComponentSize)
    {front back : List String} (h : front ++ back = components directory) :
    back.foldlM (tree.below directory).step (.inside front.reverse) =
      .ok (.inside (components directory).reverse) := by
  -- the names in front have been followed
  induction back generalizing front with
  | nil =>
    rw [← h, List.append_nil]
    rfl
  | cons name back ih =>
    have hmem : name ∈ components directory := by simp [← h]
    have hnext : front ++ [name] ++ back = components directory := by simp [← h]
    have hentry := entry?_below_of_prefix hroot hentries hnext
    have hstep : (tree.below directory).step (.inside front.reverse) name =
        .ok (.inside (name :: front.reverse)) := by
      refine (step_eq_ok_iff (hdirectory name hmem)).2 ⟨_, rfl, hsize name hmem, .inr ⟨?_, rfl⟩⟩
      simpa using hentry
    have hrest := ih hnext
    rw [List.reverse_append] at hrest
    rw [List.foldlM_cons, hstep, ok_bind]
    exact hrest

/-- A name that leads somewhere in a tree leads there below the directory. -/
theorem step_below {place place' : Place} {name : String} (hname : IsComponent name)
    (h : tree.step place name = .ok place') :
    (tree.below directory).step (place.below directory) name = .ok (place'.below directory) := by
  obtain ⟨above, rfl, hsize, hplace⟩ := (step_eq_ok_iff hname).1 h
  have hentry := entry?_below tree directory (name :: above).reverse
  have hreverse : (name :: (above ++ (components directory).reverse)).reverse =
      components directory ++ (name :: above).reverse := by simp
  refine (step_eq_ok_iff hname).2 ⟨_, rfl, hsize, ?_⟩
  rw [hreverse, hentry]
  rcases hplace with ⟨bytes, hfile, rfl⟩ | ⟨hplace, rfl⟩
  · exact .inl ⟨bytes, hfile, rfl⟩
  · exact .inr ⟨hplace, rfl⟩

theorem foldlM_step_below {place place' : Place} {names : List String}
    (hnames : ∀ name ∈ names, IsComponent name) (h : names.foldlM tree.step place = .ok place') :
    names.foldlM (tree.below directory).step (place.below directory) =
      .ok (place'.below directory) := by
  induction names generalizing place with
  | nil =>
    obtain rfl : place = place' := by simpa [pure, Except.pure] using h
    rfl
  | cons name names ih =>
    obtain ⟨hname, hrest⟩ := List.forall_mem_cons.1 hnames
    rw [List.foldlM_cons] at h ⊢
    cases hstep : tree.step place name with
    | error reason => simp [hstep] at h
    | ok next =>
      rw [hstep, ok_bind] at h
      rw [step_below hname hstep, ok_bind]
      exact ih hrest h

/-- A plain path is followed from the working directory. -/
theorem follow_eq_of_isPlain (hpath : IsPlain path) (hnul : '\x00' ∉ path.toList)
    (hsize : path.utf8ByteSize ≤ maxPathSize) :
    tree.follow path = (components path).foldlM tree.step (.inside []) := by
  rw [follow, if_neg hnul, if_neg (Nat.not_lt.2 hsize)]
  split
  · rename_i rest hrest
    exact absurd rfl (hpath "" (by simp [hrest])).ne_empty
  · rfl

theorem entries_ne_nil {place : Place} (hpath : IsPlain path)
    (h : (components path).foldlM tree.step (.inside []) = .ok place) : tree.entries ≠ [] := by
  intro hnil
  obtain ⟨name, names, hnames⟩ := List.exists_cons_of_ne_nil (components_ne_nil path)
  rw [hnames, List.foldlM_cons] at h
  have hname : IsComponent name := hpath name (by simp [hnames])
  cases hstep : tree.step (.inside []) name with
  | error reason => simp [hstep] at h
  | ok next =>
    obtain ⟨above, -, -, hnext⟩ := (step_eq_ok_iff hname).1 hstep
    unfold entry? at hnext
    simp [hnil] at hnext

/-- A plain path that leads to a file of the tree leads to it behind the directory, too. -/
theorem follow_below {bytes : ByteArray} (hroot : tree.HasRoot) (hdirectory : IsPlain directory)
    (hpath : IsPlain path) (hallows : Allows directory path)
    (h : tree.follow path = .ok (.file bytes)) :
    (tree.below directory).follow (directory ++ "/" ++ path) = .ok (.file bytes) := by
  have hnul : '\x00' ∉ path.toList := by
    intro hmem
    simp [follow, hmem] at h
  have hsize : path.utf8ByteSize ≤ maxPathSize := by
    refine Nat.le_trans ?_ hallows.path_le
    simp
  have hnul' : '\x00' ∉ (directory ++ "/" ++ path).toList := by
    simp [hnul, hallows.nul_not_mem]
  rw [follow_eq_of_isPlain hpath hnul hsize] at h
  have hentries := entries_ne_nil hpath h
  rw [follow_eq_of_isPlain (hdirectory.below hpath) hnul' hallows.path_le, components_below,
    List.foldlM_append]
  have hway := foldlM_step_directory hroot hentries hdirectory hallows.components_le
    (List.nil_append _)
  rw [List.reverse_nil] at hway
  rw [hway, ok_bind]
  exact foldlM_step_below hpath h

/-- A file that is read at a plain path of a tree is read behind the directory, too. -/
theorem files_below {text : String} (hroot : tree.HasRoot) (hdirectory : IsPlain directory)
    (hpath : IsPlain path) (hallows : Allows directory path) (h : tree.files path = .ok text) :
    (tree.below directory).files (directory ++ "/" ++ path) = .ok text := by
  cases hfollow : tree.follow path with
  | error reason => simp [files, hfollow] at h
  | ok place =>
    cases place with
    | file bytes =>
      rw [files, hfollow] at h
      rw [files, follow_below hroot hdirectory hpath hallows hfollow]
      exact h
    | inside above => simp [files, hfollow, throw, throwThe, MonadExceptOf.throw] at h
    | outside => simp [files, hfollow, throw, throwThe, MonadExceptOf.throw] at h

end FileTree

end ReleaseMatrix
