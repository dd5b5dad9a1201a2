import ReleaseMatrix.Check
import ReleaseMatrix.Proofs.Released

/-!
# The verdict of a check

A matrix is checked against the versions that an authoritative source has published. The two agree
if everything that the matrix takes to be released is published and nothing that it takes to be
unreleased is. If they do not agree, the verdict is not the first difference that is found but all
of them at once. Only released and unreleased versions are looked for: whatever else is published,
on a legacy line, on a line that is not kept, or without being declared, is of no consequence, and
neither are the order of the published versions and their repetitions.
-/

namespace ReleaseMatrix

namespace Matrix

variable {declared : SortedSet Version} {current v : Version} {p : Policy} {m : Matrix}
  {published published' : List Version} {d : Disagreement}

/-! ### Agreement -/

/-- The matrix and the published versions say the same about every version that the matrix takes to
be released or unreleased. -/
structure Agrees (m : Matrix) (published : List Version) : Prop where
  /-- What is released is published. -/
  released : ∀ v ∈ m.released, v ∈ published
  /-- What is unreleased is not. -/
  unreleased : ∀ v ∈ m.unreleasedVersions, v ∉ published

theorem agrees_iff_disagreement : m.Agrees published ↔
    (m.disagreement published).notPublished = [] ∧ (m.disagreement published).published = [] := by
  simp only [disagreement, List.filter_eq_nil_iff, decide_eq_true_eq, not_not]
  exact ⟨fun h => ⟨h.released, h.unreleased⟩, fun h => ⟨h.1, h.2⟩⟩

theorem compare_eq_ok_iff : m.compare published = .ok () ↔ m.Agrees published := by
  rw [compare, agrees_iff_disagreement]
  split
  · rename_i h
    exact ⟨fun _ => h, fun _ => rfl⟩
  · rename_i h
    refine ⟨fun hok => ?_, fun hnil => absurd hnil h⟩
    cases hok

theorem compare_eq_error_iff : m.compare published = .error d ↔
    ¬ m.Agrees published ∧ d = m.disagreement published := by
  rw [compare, agrees_iff_disagreement]
  split
  · rename_i h
    refine ⟨fun herror => ?_, fun hnot => absurd h hnot.1⟩
    cases herror
  · rename_i h
    rw [Except.error.injEq]
    exact ⟨fun hd => ⟨h, hd.symm⟩, fun hd => hd.2.symm⟩

/-! ### The versions that are named -/

/-- A disagreement that names all versions about which a matrix and the published versions differ,
none of them twice, and each list in release order. -/
structure Exhausts (m : Matrix) (published : List Version) (d : Disagreement) : Prop where
  /-- The released versions that are not published. -/
  mem_notPublished : ∀ v, v ∈ d.notPublished ↔ v ∈ m.released ∧ v ∉ published
  /-- The unreleased versions that are published. -/
  mem_published : ∀ v, v ∈ d.published ↔ v ∈ m.unreleasedVersions ∧ v ∈ published
  /-- The first list is in release order. -/
  notPublished_ordered : d.notPublished.Pairwise m.policy.Precedes
  /-- The second list is in release order. -/
  published_ordered : d.published.Pairwise m.policy.Precedes
  /-- No version is named twice. -/
  once : (d.notPublished ++ d.published).Nodup

/-- The disagreement that is computed names all those versions. -/
theorem Built.exhausts_disagreement (h : Built declared current p m) (published : List Version) :
    m.Exhausts published (m.disagreement published) := by
  have hreleased : m.released.Pairwise m.policy.Precedes := h.policy_eq ▸ h.pairwise_released
  have hunreleased : m.unreleasedVersions.Pairwise m.policy.Precedes :=
    h.policy_eq ▸ h.pairwise_unreleasedVersions
  have hmem : ∀ v, v ∈ (m.disagreement published).notPublished ↔ v ∈ m.released ∧ v ∉ published :=
    fun v => by rw [disagreement, List.mem_filter, decide_eq_true_eq]
  have hmem' : ∀ v, v ∈ (m.disagreement published).published ↔
      v ∈ m.unreleasedVersions ∧ v ∈ published :=
    fun v => by rw [disagreement, List.mem_filter, decide_eq_true_eq]
  refine ⟨hmem, hmem', hreleased.filter _, hunreleased.filter _, ?_⟩
  refine List.nodup_append.2 ⟨(nodup_of_pairwise hreleased).filter _,
    (nodup_of_pairwise hunreleased).filter _, ?_⟩
  rintro v hv _ hv' rfl
  exact ((hmem v).1 hv).2 ((hmem' v).1 hv').2

/-- No other disagreement does. -/
theorem Exhausts.unique {d' : Disagreement} (h : m.Exhausts published d)
    (h' : m.Exhausts published d') : d = d' := by
  have hnot : d.notPublished = d'.notPublished :=
    eq_of_pairwise_of_mem_iff h.notPublished_ordered h'.notPublished_ordered fun v =>
      (h.mem_notPublished v).trans (h'.mem_notPublished v).symm
  have hpublished : d.published = d'.published :=
    eq_of_pairwise_of_mem_iff h.published_ordered h'.published_ordered fun v =>
      (h.mem_published v).trans (h'.mem_published v).symm
  cases d
  cases d'
  exact congrArg₂ Disagreement.mk hnot hpublished

/-! ### The versions that count -/

/-- A version that the matrix takes to be released or unreleased. -/
def Judges (m : Matrix) (v : Version) : Prop := v ∈ m.released ∨ v ∈ m.unreleasedVersions

/-- Besides the unreleased versions the matrix judges those that are declared on a kept line which
is no legacy line. -/
theorem Built.not_judges_iff (h : Built declared current p m) : ¬ m.Judges v ↔
    v ∉ m.unreleasedVersions ∧
      (v ∉ declared ∨ ¬ p.Retains current.major v.major ∨ p.isLegacy v.major) := by
  rw [Judges, h.mem_released, Policy.Keeps]
  tauto

theorem disagreement_congr (h : ∀ v, m.Judges v → (v ∈ published ↔ v ∈ published')) :
    m.disagreement published = m.disagreement published' := by
  have hreleased : m.released.filter (· ∉ published) = m.released.filter (· ∉ published') :=
    List.filter_congr fun v hv => by simp only [h v (.inl hv)]
  have hunreleased : m.unreleasedVersions.filter (· ∈ published) =
      m.unreleasedVersions.filter (· ∈ published') :=
    List.filter_congr fun v hv => by simp only [h v (.inr hv)]
  rw [disagreement, disagreement, hreleased, hunreleased]

/-! ### The verdict -/

/-- **The verdict of a check.** It is a success exactly if the matrix agrees with the published
versions. Otherwise it is the disagreement that names all released versions that are not published
and all unreleased ones that are, each once and in release order. A version that the matrix does not
judge may be published or not: it is undeclared, dropped or on a legacy line. -/
theorem compare_verdict (h : build declared current p = .ok m) (published : List Version) :
    (m.compare published = .ok () ↔ m.Agrees published) ∧
    (∀ d, m.compare published = .error d ↔ ¬ m.Agrees published ∧ m.Exhausts published d) ∧
    (∀ published', (∀ v, m.Judges v → (v ∈ published ↔ v ∈ published')) →
      m.compare published = m.compare published') ∧
    ∀ v, ¬ m.Judges v ↔ v ∉ m.unreleasedVersions ∧
      (v ∉ declared ∨ ¬ p.Retains current.major v.major ∨ p.isLegacy v.major) := by
  have hbuilt := build_eq_ok_iff.1 h
  refine ⟨compare_eq_ok_iff, fun d => ?_, fun published' hsame => ?_, fun v => ?_⟩
  · rw [compare_eq_error_iff]
    refine and_congr_right fun _ => ⟨?_, fun hd => ?_⟩
    · rintro rfl
      exact hbuilt.exhausts_disagreement published
    · exact hd.unique (hbuilt.exhausts_disagreement published)
  · rw [compare, compare, disagreement_congr hsame]
  · exact hbuilt.not_judges_iff

/-- 1.2.0 is missing from the published versions and 2.0.1 is too many. That 7.10.1 of a legacy line
and the undeclared 9.0.0 are published as well, and 1.3.0 twice, makes no difference. -/
theorem compare_verdict_continuedLines :
    ∃ m, build continuedLines (.of 2 1 0) .standard = .ok m ∧
      m.compare [.of 7 10 1, .of 2 0 1, .of 1 3 0, .of 9 0 0, .of 2 0 0, .of 1 3 0] =
        .error ⟨[.of 1 2 0], [.of 2 0 1]⟩ ∧
      m.compare [.of 7 10 1, .of 2 0 1, .of 1 3 0, .of 9 0 0, .of 2 0 0, .of 1 3 0] =
        m.compare [.of 1 3 0, .of 2 0 0, .of 2 0 1] := by
  refine ⟨_, rfl, rfl, ?_⟩
  have h : build continuedLines (.of 2 1 0) .standard = .ok _ := rfl
  refine (compare_verdict h _).2.2.1 _ fun v hv => ?_
  revert v
  simp only [Judges, ← List.mem_append]
  decide

end Matrix

end ReleaseMatrix
