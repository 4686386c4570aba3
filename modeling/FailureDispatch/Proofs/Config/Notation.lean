import FailureDispatch.Config.Document
import Mathlib.Data.List.Forall2
import Mathlib.Data.Nat.Digits.Defs

/-!
# How integers are written

Integers are read by recursion on their characters.  What is said of them here does not
follow the recursion: a row of digits denotes the number that has these digits, and an
integer is such a row with what may stand before it.  The reader accepts exactly what is
written in this way and is small enough, and answers with what it denotes.
-/

namespace FailureDispatch
namespace Config

/-- The character stands for the digit, in either case. -/
def IsDigit (base : Nat) (c : Char) (digit : Nat) : Prop :=
  digit < base ∧ (c = digit.digitChar ∨ c = digit.digitChar.toUpper)

/-- A row of digits, the most significant first, and the number that it denotes. -/
def Row (base : Nat) (text : List Char) (value : Nat) : Prop :=
  text ≠ [] ∧ ∃ digits, List.Forall₂ (IsDigit base) text digits ∧
    value = Nat.ofDigits base digits.reverse

/-- An integer without its sign. -/
inductive Unsigned : List Char → Nat → Prop where
  | hexadecimal {text value} (row : Row 16 text value) : Unsigned ('0' :: 'x' :: text) value
  | octal {text value} (row : Row 8 text value) : Unsigned ('0' :: 'o' :: text) value
  | binary {text value} (row : Row 2 text value) : Unsigned ('0' :: 'b' :: text) value
  /-- Zero is the only decimal number that begins with a zero. -/
  | decimal {text value} (row : Row 10 text value)
      (proper : ∀ rest, text = '0' :: rest → rest = []) : Unsigned text value

/-- An integer, which may have a plus sign. -/
inductive Written : List Char → Nat → Prop where
  | bare {text value} (unsigned : Unsigned text value) : Written text value
  | plus {text value} (unsigned : Unsigned text value) : Written ('+' :: text) value

/-! ## Digits -/

section Digits

/-- What reading a list one by one comes to. -/
theorem mapM_eq_some_iff {α β : Type} (read : α → Option β) (items : List α) (values : List β) :
    items.mapM read = some values ↔
      List.Forall₂ (fun item value => read item = some value) items values := by
  induction items generalizing values with
  | nil => cases values <;> simp
  | cons item rest inductionHypothesis =>
      simp only [List.mapM_cons, Option.bind_eq_bind, Option.bind_eq_some_iff, Option.pure_def,
        Option.some.injEq]
      constructor
      · rintro ⟨value, here, later, there, rfl⟩
        exact .cons here ((inductionHypothesis later).mp there)
      · rintro (_ | ⟨here, there⟩)
        exact ⟨_, here, _, (inductionHypothesis _).mpr there, rfl⟩

theorem digit?_digitChar : ∀ base < 17, ∀ digit < base,
    digit? base digit.digitChar = some digit ∧ digit? base digit.digitChar.toUpper = some digit := by
  decide +kernel

/-- What holds of every character of a range is checked of each. -/
theorem forall_of_range (property : Char → Prop) {first last c : Char}
    (each : ∀ code ∈ List.range' first.toNat (last.toNat + 1 - first.toNat),
      property (Char.ofNat code))
    (range : first ≤ c ∧ c ≤ last) : property c := by
  have above : first.toNat ≤ c.toNat := range.1
  have below : c.toNat ≤ last.toNat := range.2
  have member : c.toNat ∈ List.range' first.toNat (last.toNat + 1 - first.toNat) := by
    rw [List.mem_range'_1]
    omega
  rw [← Char.ofNat_toNat c]
  exact each _ member

/-- The reader of digits knows the digits and nothing else. -/
theorem digit?_eq_some_iff {base : Nat} (small : base ≤ 16) (c : Char) (digit : Nat) :
    digit? base c = some digit ↔ IsDigit base c digit := by
  constructor
  · intro read
    simp only [digit?, Option.ite_none_right_eq_some, Option.some.injEq] at read
    rcases read with ⟨below, same⟩
    rw [same] at below
    refine ⟨below, ?_⟩
    rw [← same]
    by_cases numeral : '0' ≤ c ∧ c ≤ '9'
    · rw [if_pos numeral]
      exact Or.inl (forall_of_range (fun c => c = (c.toNat - '0'.toNat).digitChar)
        (by decide) numeral)
    · rw [if_neg numeral] at same ⊢
      by_cases lower : 'a' ≤ c ∧ c ≤ 'f'
      · rw [if_pos lower]
        exact Or.inl (forall_of_range (fun c => c = (c.toNat - 'a'.toNat + 10).digitChar)
          (by decide) lower)
      · rw [if_neg lower] at same ⊢
        by_cases upper : 'A' ≤ c ∧ c ≤ 'F'
        · rw [if_pos upper]
          exact Or.inr (forall_of_range
            (fun c => c = (c.toNat - 'A'.toNat + 10).digitChar.toUpper) (by decide) upper)
        · rw [if_neg upper] at same
          exact absurd same (Nat.ne_of_gt below)
  · rintro ⟨below, written⟩
    rcases digit?_digitChar base (Nat.lt_succ_of_le small) digit below with ⟨lower, upper⟩
    rcases written with rfl | rfl
    · exact lower
    · exact upper

theorem foldl_eq_ofDigits (base : Nat) (digits : List Nat) :
    digits.foldl (fun value digit => base * value + digit) 0 =
      Nat.ofDigits base digits.reverse := by
  rw [Nat.ofDigits_eq_foldr, List.foldr_reverse]
  simp only [Nat.cast_id, Nat.add_comm]

theorem digits?_eq_some_iff {base : Nat} (small : base ≤ 16) (text : List Char) (value : Nat) :
    digits? base text = some value ↔ Row base text value ∧ value ≤ maxInteger := by
  have read (digits : List Nat) :
      text.mapM (digit? base) = some digits ↔ List.Forall₂ (IsDigit base) text digits := by
    rw [mapM_eq_some_iff]
    simp only [digit?_eq_some_iff small]
  by_cases empty : text = []
  · simp [digits?, Row, empty]
  · simp only [digits?, List.isEmpty_iff, if_neg empty, Option.filter_eq_some_iff,
      Option.map_eq_some_iff, read, foldl_eq_ofDigits, decide_eq_true_eq]
    constructor
    · rintro ⟨⟨digits, row, same⟩, bounded⟩
      exact ⟨⟨empty, digits, row, same.symm⟩, bounded⟩
    · rintro ⟨⟨_, digits, row, same⟩, bounded⟩
      exact ⟨⟨digits, row, same.symm⟩, bounded⟩

end Digits

/-! ## Integers -/

theorem decimal?_eq_some_iff (text : List Char) (value : Nat) :
    decimal? text = some value ↔
      (Row 10 text value ∧ ∀ rest, text = '0' :: rest → rest = []) ∧ value ≤ maxInteger := by
  unfold decimal?
  split
  · next second rest =>
    refine iff_of_false nofun ?_
    rintro ⟨⟨_, proper⟩, _⟩
    cases proper (second :: rest) rfl
  · next other =>
    rw [digits?_eq_some_iff (by decide)]
    have proper : ∀ rest, text = '0' :: rest → rest = [] := by
      rintro (_ | ⟨second, rest⟩) same
      · rfl
      · exact absurd same (other second rest)
    exact ⟨fun both => ⟨⟨both.1, proper⟩, both.2⟩, fun both => ⟨both.1.1, both.2⟩⟩

/-- Read an integer that has no sign. -/
def unsigned? (text : List Char) : Option Nat :=
  match text with
  | '0' :: 'x' :: rest => digits? 16 rest
  | '0' :: 'o' :: rest => digits? 8 rest
  | '0' :: 'b' :: rest => digits? 2 rest
  | _ => decimal? text

theorem unsigned?_eq_some_iff (text : List Char) (value : Nat) :
    unsigned? text = some value ↔ Unsigned text value ∧ value ≤ maxInteger := by
  constructor
  · intro read
    unfold unsigned? at read
    split at read
    · rcases (digits?_eq_some_iff (by decide) _ _).mp read with ⟨row, bounded⟩
      exact ⟨.hexadecimal row, bounded⟩
    · rcases (digits?_eq_some_iff (by decide) _ _).mp read with ⟨row, bounded⟩
      exact ⟨.octal row, bounded⟩
    · rcases (digits?_eq_some_iff (by decide) _ _).mp read with ⟨row, bounded⟩
      exact ⟨.binary row, bounded⟩
    · rcases (decimal?_eq_some_iff _ _).mp read with ⟨⟨row, proper⟩, bounded⟩
      exact ⟨.decimal row proper, bounded⟩
  · rintro ⟨written, bounded⟩
    cases written with
    | hexadecimal row | octal row | binary row =>
        exact (digits?_eq_some_iff (by decide) _ _).mpr ⟨row, bounded⟩
    | decimal row proper =>
        unfold unsigned?
        split
        · cases proper _ rfl
        · cases proper _ rfl
        · cases proper _ rfl
        · exact (decimal?_eq_some_iff _ _).mpr ⟨⟨row, proper⟩, bounded⟩

/-- A sign is no digit. -/
theorem not_unsigned_plus (rest : List Char) (value : Nat) : ¬ Unsigned ('+' :: rest) value := by
  intro unsigned
  cases unsigned with
  | decimal row _ =>
      rcases row with ⟨_, _, digits, _⟩
      cases digits with
      | cons first _ =>
          rw [← digit?_eq_some_iff (by decide)] at first
          cases first

theorem integer?_eq (text : List Char) :
    integer? text = unsigned? (match text with
      | '+' :: rest => rest
      | _ => text) := rfl

/-- The reader accepts what is written as an integer and fits into 64 bits, and answers with
what it denotes. -/
theorem integer?_eq_some_iff (text : List Char) (value : Nat) :
    integer? text = some value ↔ Written text value ∧ value ≤ maxInteger := by
  rw [integer?_eq]
  split
  · next rest =>
    rw [unsigned?_eq_some_iff]
    constructor
    · rintro ⟨unsigned, bounded⟩
      exact ⟨.plus unsigned, bounded⟩
    · rintro ⟨written, bounded⟩
      cases written with
      | bare unsigned => exact absurd unsigned (not_unsigned_plus rest value)
      | plus unsigned => exact ⟨unsigned, bounded⟩
  · next bare =>
    rw [unsigned?_eq_some_iff]
    constructor
    · rintro ⟨unsigned, bounded⟩
      exact ⟨.bare unsigned, bounded⟩
    · rintro ⟨written, bounded⟩
      cases written with
      | bare unsigned => exact ⟨unsigned, bounded⟩
      | plus _ => exact absurd rfl (bare _)

end Config
end FailureDispatch
