/-!
# Decimal numerals

Reading natural numbers from ASCII digits, with and without a bound. The numeral that
`Nat.repr` writes is read back as its number.
-/

namespace ReleaseMatrix.Text

/-- The number written by a non-empty run of ASCII digits; leading zeros do not matter. -/
def natural? (s : List Char) : Option Nat :=
  if s ≠ [] ∧ s.all Char.isDigit then some (Nat.ofDigitChars 10 s 0) else none

/-- The number of an unsigned numeral below a bound, which a single plus sign may precede. -/
def bounded? (bound : Nat) (s : List Char) : Option Nat :=
  let digits := match s with
    | '+' :: rest => rest
    | _ => s
  (natural? digits).filter (· < bound)

theorem natural?_eq_some_iff {s : List Char} {n : Nat} :
    natural? s = some n ↔ s ≠ [] ∧ (∀ c ∈ s, c.isDigit) ∧ Nat.ofDigitChars 10 s 0 = n := by
  unfold natural?
  split
  · rename_i h
    exact ⟨fun hn => ⟨h.1, List.all_eq_true.1 h.2, Option.some.inj hn⟩,
      fun hn => congrArg some hn.2.2⟩
  · rename_i h
    exact ⟨fun hn => by simp at hn, fun hn => absurd ⟨hn.1, List.all_eq_true.2 hn.2.1⟩ h⟩

/-- The decimal digits of a number are read as that number. -/
@[simp] theorem natural?_toDigits (n : Nat) : natural? (Nat.toDigits 10 n) = some n :=
  natural?_eq_some_iff.2 ⟨Nat.toDigits_ne_nil,
    fun _ hc => Nat.isDigit_of_mem_toDigits (by decide) (by decide) hc,
    Nat.ofDigitChars_toDigits (by decide) (by decide)⟩

/-- There is nothing but digits among the decimal digits of a number. -/
theorem not_mem_toDigits {c : Char} (h : ¬ c.isDigit) (n : Nat) : c ∉ Nat.toDigits 10 n :=
  fun hc => h (Nat.isDigit_of_mem_toDigits (by decide) (by decide) hc)

/-- Numbers with the same decimal digits are the same. -/
theorem eq_of_toDigits_eq {m n : Nat} (h : Nat.toDigits 10 m = Nat.toDigits 10 n) : m = n := by
  have hread := natural?_toDigits m
  rw [h, natural?_toDigits] at hread
  exact (Option.some.inj hread).symm

/-- A number below the bound is read back from its decimal digits. -/
theorem bounded?_toDigits {bound n : Nat} (h : n < bound) :
    bounded? bound (Nat.toDigits 10 n) = some n := by
  have hplus : '+' ∉ Nat.toDigits 10 n := not_mem_toDigits (by decide) n
  unfold bounded?
  split
  · rename_i rest hs
    exact absurd (by simp [hs]) hplus
  · simp [h]

theorem lt_of_bounded? {bound n : Nat} {s : List Char} (h : bounded? bound s = some n) :
    n < bound := by
  simp only [bounded?, Option.filter_eq_some_iff] at h
  simpa using h.2

/-- The number of an unsigned numeral, if it fits in 32 bits. -/
def number32? (s : List Char) : Option { n : Nat // n < 0x100000000 } :=
  match h : bounded? 0x100000000 s with
  | some n => some ⟨n, lt_of_bounded? h⟩
  | none => none

theorem number32?_eq_some_iff {s : List Char} {n : { n : Nat // n < 0x100000000 }} :
    number32? s = some n ↔ bounded? 0x100000000 s = some n.1 := by
  unfold number32?
  split <;> rename_i h <;> simp [h, Subtype.ext_iff]

/-- A number of 32 bits is read back from its decimal digits. -/
theorem number32?_toDigits {n : Nat} (h : n < 0x100000000) :
    number32? (Nat.toDigits 10 n) = some ⟨n, h⟩ :=
  number32?_eq_some_iff.2 (bounded?_toDigits h)

end ReleaseMatrix.Text
