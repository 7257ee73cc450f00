import Herald.Config
import Herald.Proofs.Json.Literals
import Herald.Proofs.Text.Splitting
import Herald.Proofs.Text.Trimming
import Mathlib.Data.List.Forall2
/-!
Numbers that stand in variables: naturals in decimal digits, with blanks around them, and lists of
these between commas.
-/

set_option autoImplicit false

namespace Herald

namespace Text

variable {limit m n : Nat} {s : List Char}

/-- Decimal digits, at least one of them, perhaps behind a plus sign, and the natural they stand
for. -/
inductive Numeral : List Char → Nat → Prop where
  | plain {ds : List Char} (any : ds ≠ []) (digits : ∀ c ∈ ds, c.isDigit = true) :
    Numeral ds (Nat.ofDigitChars 10 ds 0)
  | plus {ds : List Char} (any : ds ≠ []) (digits : ∀ c ∈ ds, c.isDigit = true) :
    Numeral ('+' :: ds) (Nat.ofDigitChars 10 ds 0)

theorem numeral_toDigits (n : Nat) : Numeral (Nat.toDigits 10 n) n := by
  have h := Numeral.plain (Nat.toDigits_ne_nil (b := 10) (n := n)) fun c hc =>
    Nat.isDigit_of_mem_toDigits (by decide) (by decide) hc
  rwa [Nat.ofDigitChars_ten_toDigits] at h

theorem isDigit_iff {c : Char} : c.isDigit = true ↔ '0' ≤ c ∧ c ≤ '9' := by
  simp [Char.isDigit, Char.le_def]

theorem readDigitsBelow_eq_ok : readDigitsBelow limit n s = .ok m ↔
    (∀ c ∈ s, c.isDigit = true) ∧ m = Nat.ofDigitChars 10 s n ∧ (s ≠ [] → m < limit) := by
  induction s generalizing n with
  | nil =>
    constructor
    · rintro ⟨⟩
      exact ⟨List.forall_mem_nil _, rfl, fun h => absurd rfl h⟩
    · rintro ⟨-, rfl, -⟩
      rfl
  | cons c s ih =>
    have hvalue : n * 10 + (c.toNat - 48) = 10 * n + (c.toNat - '0'.toNat) := by
      rw [Nat.mul_comm]
      rfl
    rw [readDigitsBelow, List.forall_mem_cons, Nat.ofDigitChars_cons, isDigit_iff]
    simp only [hvalue]
    split
    · next hc =>
      split
      · next hlt =>
        rw [ih]
        constructor
        · rintro ⟨hs, rfl, h⟩
          refine ⟨⟨hc, hs⟩, rfl, fun _ => ?_⟩
          cases s with
          | nil => exact hlt
          | cons d s => exact h (List.cons_ne_nil d s)
        · rintro ⟨⟨-, hs⟩, rfl, h⟩
          exact ⟨hs, rfl, fun _ => h (List.cons_ne_nil c s)⟩
      · next hlt =>
        refine iff_of_false (by rintro ⟨⟩) ?_
        rintro ⟨-, rfl, h⟩
        exact hlt (Nat.lt_of_le_of_lt (le_ofDigitChars s _) (h (List.cons_ne_nil c s)))
    · next hc => exact iff_of_false (by rintro ⟨⟩) fun h => hc h.1.1

theorem readDigitsBelow_zero (any : s ≠ []) : readDigitsBelow limit 0 s = .ok n ↔
    ((∀ c ∈ s, c.isDigit = true) ∧ n = Nat.ofDigitChars 10 s 0) ∧ n < limit := by
  rw [readDigitsBelow_eq_ok, and_assoc]
  exact and_congr_right fun _ => and_congr_right fun _ => ⟨fun h => h any, fun h _ => h⟩

theorem readBelow_eq_ok : readBelow limit s = .ok n ↔ Numeral s n ∧ n < limit := by
  have plus_of : ¬ ('+' : Char).isDigit = true := by decide
  unfold readBelow
  split
  · refine iff_of_false (by rintro ⟨⟩) fun h => ?_
    cases h.1 with
    | plain any => exact any rfl
  · refine iff_of_false (by rintro ⟨⟩) fun h => ?_
    cases h.1 with
    | plain _ digits => exact plus_of (digits _ List.mem_cons_self)
    | plus any => exact any rfl
  · next r hr =>
    have any : r ≠ [] := hr
    rw [readDigitsBelow_zero any]
    refine and_congr_left fun _ => ⟨?_, fun h => ?_⟩
    · rintro ⟨digits, rfl⟩
      exact .plus any digits
    · cases h with
      | plain _ digits => exact absurd (digits _ List.mem_cons_self) plus_of
      | plus _ digits => exact ⟨digits, rfl⟩
  · next any _ unsigned =>
    rw [readDigitsBelow_zero any]
    refine and_congr_left fun _ => ⟨?_, fun h => ?_⟩
    · rintro ⟨digits, rfl⟩
      exact .plain any digits
    · cases h with
      | plain _ digits => exact ⟨digits, rfl⟩
      | plus => exact absurd rfl (unsigned _)

theorem isBlank_of_mem_toDigits {c : Char} (h : c ∈ Nat.toDigits 10 n) : isBlank c = false := by
  have digit : c.isDigit = true := Nat.isDigit_of_mem_toDigits (by decide) (by decide) h
  have hc : 48 ≤ c.toNat ∧ c.toNat ≤ 57 := by
    simpa [isDigit_iff, Char.le_def, UInt32.le_iff_toNat_le] using digit
  rw [← Bool.not_eq_true]
  simp only [isBlank, Bool.or_eq_true, Bool.and_eq_true, decide_eq_true_eq, beq_iff_eq]
  omega

theorem trimStart_append_of_blank {a : List Char} (h : allBlank a = true) (s : List Char) :
    trimStart (a ++ s) = trimStart s := by
  induction a with
  | nil => rfl
  | cons c a ih =>
    rw [allBlank_cons, Bool.and_eq_true] at h
    rw [List.cons_append, trimStart_cons_of_blank h.1, ih h.2]

theorem trim_between {a b : List Char} (ha : allBlank a = true)
    (hb : allBlank b = true) (any : s ≠ [])
    (solid : ∀ c ∈ s, isBlank c = false) : trim (a ++ s ++ b) = s := by
  have hstart : trimStart (s ++ b) = s ++ b := trimStart_eq_self_iff.2 fun c hc => by
    rw [List.head?_append_of_ne_nil s any] at hc
    exact solid c (List.mem_of_mem_head? hc)
  have hend : trimEnd s = s :=
    trimEnd_eq_self_iff.2 fun c hc => solid c (List.mem_of_mem_getLast? hc)
  rw [trim, List.append_assoc, trimStart_append_of_blank ha, hstart,
    trimEnd_append_of_blank hb, hend]

theorem numeral_between {a b : List Char} (ha : allBlank a = true)
    (hb : allBlank b = true) (n : Nat) : Numeral (trim (a ++ Nat.toDigits 10 n ++ b)) n := by
  rw [trim_between ha hb Nat.toDigits_ne_nil fun _ => isBlank_of_mem_toDigits]
  exact numeral_toDigits n

theorem not_mem_of_allBlank {c : Char} (h : allBlank s = true) (hc : isBlank c = false) :
    c ∉ s := fun hs => by
  rw [List.all_eq_true.1 h c hs] at hc
  cases hc

end Text

open Text

variable {ns : List UInt64} {ps : List (List Char)}

/-- What stands between commas: the numbers in decimal digits and in their order, with blanks around
them, and blank parts among them. -/
inductive Spread : List UInt64 → List (List Char) → Prop where
  | nil : Spread [] []
  | blank {ns : List UInt64} {p : List Char} {ps : List (List Char)} (h : allBlank p = true)
    (rest : Spread ns ps) : Spread ns (p :: ps)
  | number {n : UInt64} {ns : List UInt64} {a b : List Char} {ps : List (List Char)}
    (ha : allBlank a = true) (hb : allBlank b = true) (rest : Spread ns ps) :
    Spread (n :: ns) ((a ++ Nat.toDigits 10 n.toNat ++ b) :: ps)

theorem Spread.forall₂ (h : Spread ns ps) :
    List.Forall₂ (fun p n => Numeral (trim p) n.toNat) (ps.filter fun p => !allBlank p) ns := by
  induction h with
  | nil => exact .nil
  | blank h _ ih => rwa [List.filter_cons_of_neg (by simp [h])]
  | @number n ns a b ps ha hb _ ih =>
    have hdigits : allBlank (Nat.toDigits 10 n.toNat) = false := by
      obtain ⟨c, hc⟩ := List.exists_mem_of_ne_nil _ (Nat.toDigits_ne_nil (b := 10) (n := n.toNat))
      exact allBlank_eq_false_iff.2 ⟨c, hc, isBlank_of_mem_toDigits hc⟩
    rw [List.filter_cons_of_pos (by simp [hdigits])]
    exact .cons (numeral_between ha hb n.toNat) ih

theorem Spread.not_mem (h : Spread ns ps) : ∀ p ∈ ps, ',' ∉ p := by
  have hcomma : isBlank ',' = false := by decide
  induction h with
  | nil => exact List.forall_mem_nil _
  | blank h _ ih => exact List.forall_mem_cons.2 ⟨not_mem_of_allBlank h hcomma, ih⟩
  | number ha hb _ ih =>
    refine List.forall_mem_cons.2 ⟨fun h => ?_, ih⟩
    rcases List.mem_append.1 h with h | h
    · rcases List.mem_append.1 h with h | h
      · exact not_mem_of_allBlank ha hcomma h
      · exact absurd (Nat.isDigit_of_mem_toDigits (by decide) (by decide) h) (by decide)
    · exact not_mem_of_allBlank hb hcomma h

namespace Config.Variable

variable {name raw : String} {l : List String}

theorem natural_eq_ok {limit n : Nat} :
    natural limit name raw = .ok n ↔ Numeral (trim raw.toList) n ∧ n < limit := by
  rw [natural, ← readBelow_eq_ok]
  cases readBelow limit (trim raw.toList) <;> simp

/-- For numbers of a type that holds just the naturals below the limit. -/
theorem map_natural_eq_ok {α : Type} {limit : Nat} {f : Nat → α} {value : α → Nat} {x : α}
    (bound : ∀ x, value x < limit) (f_value : ∀ x, f (value x) = x)
    (value_f : ∀ m < limit, value (f m) = m) :
    (natural limit name raw).map f = .ok x ↔ Numeral (trim raw.toList) (value x) := by
  cases hn : natural limit name raw with
  | error e =>
    refine iff_of_false (by rintro ⟨⟩) fun h => ?_
    cases hn.symm.trans (natural_eq_ok.2 ⟨h, bound x⟩)
  | ok m =>
    obtain ⟨hm, hlt⟩ := natural_eq_ok.1 hn
    constructor
    · rintro ⟨⟩
      rwa [value_f m hlt]
    · intro h
      cases hn.symm.trans (natural_eq_ok.2 ⟨h, bound x⟩)
      exact congrArg Except.ok (f_value x)

theorem word64_eq_ok {n : UInt64} : word64 name raw = .ok n ↔ Numeral (trim raw.toList) n.toNat :=
  map_natural_eq_ok UInt64.toNat_lt (fun _ => UInt64.ofNat_toNat) fun _ => UInt64.toNat_ofNat_of_lt'

theorem word32_eq_ok {n : UInt32} : word32 name raw = .ok n ↔ Numeral (trim raw.toList) n.toNat :=
  map_natural_eq_ok UInt32.toNat_lt (fun _ => UInt32.ofNat_toNat) fun _ => UInt32.toNat_ofNat_of_lt'

theorem wordsOf_eq_ok : wordsOf name l = .ok ns ↔
    List.Forall₂ (fun p n => word64 name p = .ok n) l ns := by
  induction l generalizing ns with
  | nil =>
    rw [wordsOf, List.forall₂_nil_left_iff]
    exact ⟨fun h => (Except.ok.inj h).symm, fun h => congrArg Except.ok h.symm⟩
  | cons p l ih =>
    rw [wordsOf, List.forall₂_cons_left_iff]
    cases hn : word64 name p with
    | error e => exact iff_of_false (by rintro ⟨⟩) (by rintro ⟨n, ns', ⟨⟩, -⟩)
    | ok n =>
      cases hs : wordsOf name l with
      | error e =>
        refine iff_of_false (by rintro ⟨⟩) ?_
        rintro ⟨m, ns', -, h, -⟩
        cases hs.symm.trans (ih.2 h)
      | ok ms =>
        constructor
        · rintro ⟨⟩
          exact ⟨n, ms, rfl, ih.1 hs, rfl⟩
        · rintro ⟨m, ns', hm, h, rfl⟩
          cases hm
          cases hs.symm.trans (ih.2 h)
          rfl

theorem words_eq_ok : words name raw = .ok ns ↔ List.Forall₂ (fun p n => Numeral (trim p) n.toNat)
    ((splitOnChar ',' raw.toList).filter fun p => !allBlank p) ns := by
  rw [words, wordsOf_eq_ok, listParts, List.forall₂_map_left_iff]
  simp only [word64_eq_ok, String.toList_ofList]

theorem words_of_spread (h : Spread ns ps) (name : String) :
    words name (.ofList ([','].intercalate ps)) = .ok ns := by
  rw [words_eq_ok, String.toList_ofList]
  cases ps with
  | nil => exact h.forall₂
  | cons p ps =>
    rw [splitOnChar_eq_iff.2 ⟨List.cons_ne_nil p ps, h.not_mem, rfl⟩]
    exact h.forall₂

end Config.Variable

end Herald
