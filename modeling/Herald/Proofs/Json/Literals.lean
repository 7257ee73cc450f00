import Herald.Json.Printer
import Herald.Json.Number
import Herald.Proofs.Double.Rounding
/-!
Numbers as they are written: each is a literal, and a reader takes the whole of it and nothing more.
-/

set_option autoImplicit false

namespace Herald

theorem le_ofDigitChars (ds : List Char) (n : Nat) : n ≤ Nat.ofDigitChars 10 ds n := by
  have hp : 0 < 10 ^ ds.length := Nat.pow_pos (by decide)
  rw [Nat.ofDigitChars_eq_ofDigitChars_zero]
  exact Nat.le_trans (Nat.le_mul_of_pos_left n hp) (Nat.le_add_right _ _)

namespace Json

theorem isDigit_eq (c : Char) : isDigit c = c.isDigit := by
  simp only [isDigit, Char.isDigit, ge_iff_le, Char.le_def]

theorem isDigit_toDigits {n : Nat} {c : Char} (h : c ∈ Nat.toDigits 10 n) : isDigit c = true := by
  rw [isDigit_eq]
  exact Nat.isDigit_of_mem_toDigits (by decide) (by decide) h

theorem digitsValue_toDigits (n : Nat) : digitsValue (Nat.toDigits 10 n) = n :=
  Nat.ofDigitChars_ten_toDigits

theorem head_toDigits {n : Nat} (h : n ≠ 0) : ∃ c cs, Nat.toDigits 10 n = c :: cs ∧ c ≠ '0' := by
  induction n using Nat.strongRecOn with
  | ind n ih =>
    rw [Nat.toDigits_eq_if (by decide)]
    split
    · next hn =>
      refine ⟨_, [], rfl, ?_⟩
      have : ∀ m, m < 10 → m ≠ 0 → Nat.digitChar m ≠ '0' := by decide
      exact this n hn h
    · next hn =>
      obtain ⟨c, cs, hc, h0⟩ := ih (n / 10) (by omega) (by omega)
      exact ⟨c, _, by rw [hc]; rfl, h0⟩

def Stops (p : Char → Bool) (r : List Char) : Prop := ∀ c ∈ r.head?, p c = false

theorem takeWhile_of_stops {p : Char → Bool} {ds r : List Char} (hd : ∀ c ∈ ds, p c = true)
    (hr : Stops p r) : (ds ++ r).takeWhile p = ds ∧ (ds ++ r).dropWhile p = r := by
  rw [List.takeWhile_append_of_pos hd, List.dropWhile_append_of_pos hd]
  cases r with
  | nil => simp
  | cons c r =>
    have hc : p c = false := hr c rfl
    simp [hc]

theorem readDigits_append {ds r : List Char} (hd : ∀ c ∈ ds, isDigit c = true) (hn : ds ≠ [])
    (hr : Stops isDigit r) : readDigits (ds ++ r) = some (ds, r) := by
  obtain ⟨ht, hw⟩ := takeWhile_of_stops hd hr
  unfold readDigits
  split
  · next h => exact absurd (ht.symm.trans h) hn
  · rw [ht, hw]

def isMark (c : Char) : Bool := c = ',' || c = ']' || c = '}'

def Ends (r : List Char) : Prop := ∀ c ∈ r.head?, isMark c = true

structure IsWhole (w : List Char) : Prop where
  digits : ∀ c ∈ w, isDigit c = true
  first : w = ['0'] ∨ ∃ c cs, w = c :: cs ∧ c ≠ '0'

inductive IsFraction : List Char → Prop where
  | none : IsFraction []
  | some {ds : List Char} (digits : ∀ c ∈ ds, isDigit c = true) (any : ds ≠ []) :
  IsFraction ('.' :: ds)

inductive IsExponent : List Char → Prop where
  | none : IsExponent []
  | some {s : Char} {ds : List Char} (sign : s = '-' ∨ s = '+')
    (digits : ∀ c ∈ ds, isDigit c = true) (any : ds ≠ []) : IsExponent ('e' :: s :: ds)

theorem isWhole_toDigits (n : Nat) : IsWhole (Nat.toDigits 10 n) := by
  refine ⟨fun c => isDigit_toDigits, ?_⟩
  by_cases h : n = 0
  · exact .inl (h ▸ Nat.toDigits_zero 10)
  · exact .inr (head_toDigits h)

theorem stops_of_ends {p : Char → Bool} (hp : ∀ c, isMark c = true → p c = false) {r : List Char}
    (h : Ends r) : Stops p r := fun c hc => hp c (h c hc)

theorem isMark_cases {c : Char} (h : isMark c = true) : c = ',' ∨ c = ']' ∨ c = '}' := by
  simpa [isMark, or_assoc] using h

theorem isDigit_of_isMark {c : Char} (h : isMark c = true) : isDigit c = false := by
  rcases isMark_cases h with rfl | rfl | rfl <;> decide

theorem readWhole_append {w r : List Char} (hw : IsWhole w) (hr : Stops isDigit r) :
    readWhole (w ++ r) = some (w, r) := by
  rcases hw.first with rfl | ⟨c, cs, rfl, hc⟩
  · have ht : r.takeWhile isDigit = [] := (takeWhile_of_stops (List.forall_mem_nil _) hr).1
    simp [readWhole, ht]
  · have h := readDigits_append hw.digits (by simp) hr
    simp only [List.cons_append] at h ⊢
    unfold readWhole
    split
    · next heq => exact absurd (List.cons.inj heq).1 hc
    · exact h

theorem readFraction_point {ds r : List Char} (hd : ∀ c ∈ ds, isDigit c = true) (hn : ds ≠ [])
    (hr : Stops isDigit r) : readFraction ('.' :: ds ++ r) = some (some ds, r) := by
  simp [readFraction, readDigits_append hd hn hr]

theorem readFraction_stops {r : List Char} (hr : Stops (· == '.') r) :
    readFraction r = some (none, r) := by
  unfold readFraction
  split
  · exact absurd (hr '.' rfl) (by decide)
  · rfl

theorem readFraction_append {f : List Char} (hf : IsFraction f) : ∃ x, ∀ r, Stops isDigit r →
    Stops (· == '.') r → readFraction (f ++ r) = some (x, r) := by
  cases hf with
  | none => exact ⟨none, fun r _ hr => readFraction_stops hr⟩
  | @some ds digits any => exact ⟨some ds, fun r hr _ => readFraction_point digits any hr⟩

theorem readExponent_append {e : List Char} (he : IsExponent e) : ∃ x, ∀ r, Ends r →
    readExponent (e ++ r) = some (x, r) := by
  cases he with
  | none =>
    refine ⟨none, fun r hr => ?_⟩
    cases r with
    | nil => rfl
    | cons c r =>
      have hc : (c = 'e' || c = 'E') = false := by
        rcases isMark_cases (hr c rfl) with rfl | rfl | rfl <;> decide
      simp only [List.nil_append, readExponent, hc]
      rfl
  | @some s ds sign digits any =>
    have hd := fun {r : List Char} (hr : Ends r) =>
      readDigits_append digits any (stops_of_ends (fun _ => isDigit_of_isMark) hr)
    rcases sign with rfl | rfl
    · refine ⟨some (-(digitsValue ds : Int)), fun r hr => ?_⟩
      simp [readExponent, hd hr]
    · refine ⟨some (digitsValue ds : Int), fun r hr => ?_⟩
      simp [readExponent, hd hr]

inductive IsUnsigned : List Char → Prop where
  | parts {w f e : List Char} (whole : IsWhole w) (fraction : IsFraction f)
    (exponent : IsExponent e) :
      IsUnsigned (w ++ f ++ e)

inductive IsLiteral : List Char → Prop where
  | positive {u : List Char} (h : IsUnsigned u) : IsLiteral u
  | negative {u : List Char} (h : IsUnsigned u) : IsLiteral ('-' :: u)

theorem readUnsigned_append {u : List Char} (hu : IsUnsigned u) (negative : Bool) :
    ∃ l, ∀ r, Ends r → readUnsigned negative (u ++ r) = some (l, r) := by
  obtain ⟨hw, hf, he⟩ := hu
  rename_i w f e
  obtain ⟨x, hx⟩ := readFraction_append hf
  obtain ⟨y, hy⟩ := readExponent_append he
  refine ⟨⟨negative, w, x, y⟩, fun r hr => ?_⟩
  have hr' : Stops isDigit r := stops_of_ends (fun _ => isDigit_of_isMark) hr
  have her : Stops isDigit (e ++ r) := by
    cases he with
    | none => exact hr'
    | some => rintro _ ⟨⟩; decide
  have hep : Stops (· == '.') (e ++ r) := by
    cases he with
    | none =>
      refine stops_of_ends (fun c hc => ?_) hr
      rcases isMark_cases hc with rfl | rfl | rfl <;> decide
    | some => rintro _ ⟨⟩; decide
  have hfr : Stops isDigit (f ++ (e ++ r)) := by
    cases hf with
    | none => exact her
    | some => rintro _ ⟨⟩; decide
  simp only [readUnsigned, List.append_assoc, readWhole_append hw hfr, hx _ her hep, hy r hr,
    Option.bind_eq_bind, Option.bind_some, Option.pure_def]

theorem head_isUnsigned {u : List Char} (hu : IsUnsigned u) :
    ∃ c cs, u = c :: cs ∧ isDigit c = true := by
  obtain ⟨hw, _, _⟩ := hu
  rename_i w f e
  rcases hw.first with rfl | ⟨c, cs, rfl, _⟩
  · exact ⟨'0', _, rfl, by decide⟩
  · exact ⟨c, _, rfl, hw.digits c (by simp)⟩

theorem head_isLiteral {t : List Char} (ht : IsLiteral t) :
    ∃ c cs, t = c :: cs ∧ (c = '-' ∨ isDigit c = true) := by
  cases ht with
  | positive h =>
    obtain ⟨c, cs, rfl, hc⟩ := head_isUnsigned h
    exact ⟨c, cs, rfl, .inr hc⟩
  | negative h => exact ⟨'-', _, rfl, .inl rfl⟩

theorem readLiteral_unsigned {u : List Char} (hu : IsUnsigned u) (r : List Char) :
    readLiteral (u ++ r) = readUnsigned false (u ++ r) := by
  obtain ⟨c, cs, rfl, hc⟩ := head_isUnsigned hu
  unfold readLiteral
  split
  · next heq =>
    obtain rfl : c = '-' := (List.cons.inj heq).1
    exact absurd hc (by decide)
  · rfl

theorem readLiteral_append {t : List Char} (ht : IsLiteral t) :
    ∃ l, ∀ r, Ends r → readLiteral (t ++ r) = some (l, r) := by
  cases ht with
  | negative h =>
    obtain ⟨l, hl⟩ := readUnsigned_append h true
    exact ⟨l, hl⟩
  | positive h =>
    obtain ⟨l, hl⟩ := readUnsigned_append h false
    exact ⟨l, fun r hr => (readLiteral_unsigned h r).trans (hl r hr)⟩

theorem isUnsigned_toDigits (n : Nat) : IsUnsigned (Nat.toDigits 10 n) := by
  have := IsUnsigned.parts (isWhole_toDigits n) .none .none
  simpa using this

theorem isLiteral_writeInt (i : Int) : IsLiteral (writeInt i) := by
  unfold writeInt
  split
  · exact .negative (isUnsigned_toDigits _)
  · exact .positive (isUnsigned_toDigits _)

end Json

namespace Decimal

theorem digits_shortest {tie : Tie} {r : Nat} (h : r ≠ 0) : (shortest tie r).digits ≠ 0 := by
  intro hd
  have hr := rank_shortest tie r
  generalize shortest tie r = d at hd hr
  obtain ⟨n, e⟩ := d
  cases hd
  exact h (hr.symm.trans (rank_zero e))

def first (d : Decimal) : Int := (Nat.toDigits 10 d.digits).length + d.exponent - 1

def shown (d : Decimal) : Decimal :=
  if 0 ≤ d.exponent ∧ Double.Style.document.inFull d.first = true then
    ⟨d.digits * Nat.pow 10 (d.exponent.toNat + 1), -1⟩
  else d

theorem rank_shown (d : Decimal) : d.shown.rank = d.rank := by
  unfold shown
  split
  · next h =>
    have he : (-1 : Int) + (d.exponent.toNat + 1 : Nat) = d.exponent := by omega
    rw [rank_tens, he]
  · rfl

end Decimal

namespace Json.Literal

open Double

def text (l : Literal) : List Char :=
  l.whole ++ l.fraction.elim [] ('.' :: ·) ++ l.exponent.elim [] exponentText

def full (l : Literal) : Decimal :=
  ⟨Nat.ofDigitChars 10 (l.whole ++ l.fraction.getD []) 0,
    l.exponent.getD 0 - (l.fraction.getD []).length⟩

structure IsFormed (l : Literal) : Prop where
  whole : IsWhole l.whole
  fraction : ∀ ds ∈ l.fraction, (∀ c ∈ ds, isDigit c = true) ∧ ds ≠ []

structure IsWritten (l : Literal) : Prop extends IsFormed l where
  marked : l.fraction ≠ none ∨ l.exponent ≠ none

variable {l : Literal}

theorem isWritten_point {w ds : List Char} (negative : Bool) (x : Option Int) (hw : IsWhole w)
    (hd : ∀ c ∈ ds, isDigit c = true) (hn : ds ≠ []) : IsWritten ⟨negative, w, some ds, x⟩ := by
  refine ⟨⟨hw, ?_⟩, .inl (by simp)⟩
  rintro _ ⟨⟩
  exact ⟨hd, hn⟩

theorem isExponent_exponentText (x : Int) : IsExponent (exponentText x) := by
  unfold exponentText
  refine .some ?_ (fun c => isDigit_toDigits) Nat.toDigits_ne_nil
  split
  · exact .inl rfl
  · exact .inr rfl

theorem isUnsigned_text (h : l.IsFormed) : IsUnsigned l.text := by
  refine .parts h.whole ?_ ?_
  · cases hf : l.fraction with
    | none => exact .none
    | some ds =>
      obtain ⟨hd, hn⟩ := h.fraction ds hf
      exact .some hd hn
  · cases l.exponent with
    | none => exact .none
    | some x => exact isExponent_exponentText x

theorem readExponent_exponentText (x : Int) :
    readExponent (exponentText x) = some (some x, []) := by
  obtain ⟨n, hn⟩ : ∃ n, x.natAbs = n := ⟨_, rfl⟩
  have hd : readDigits (Nat.toDigits 10 n) = some (Nat.toDigits 10 n, []) := by
    have h := readDigits_append (fun c => isDigit_toDigits) (Nat.toDigits_ne_nil (b := 10) (n := n))
      (r := []) (by rintro _ ⟨⟩)
    rwa [List.append_nil] at h
  rw [exponentText, hn]
  by_cases h : x < 0
  · have hx : -(n : Int) = x := by omega
    simp [h, readExponent, hd, digitsValue_toDigits, hx]
  · have hx : (n : Int) = x := by omega
    simp [h, readExponent, hd, digitsValue_toDigits, hx]

theorem readUnsigned_text (h : l.IsFormed) : readUnsigned l.negative l.text = some (l, []) := by
  obtain ⟨negative, w, f, x⟩ := l
  have hexponent : readExponent (x.elim [] exponentText) = some (x, []) := by
    cases x with
    | none => rfl
    | some x => exact readExponent_exponentText x
  have hstops : Stops isDigit (x.elim [] exponentText) ∧
      Stops (· == '.') (x.elim [] exponentText) := by
    cases x with
    | none => exact ⟨by rintro _ ⟨⟩, by rintro _ ⟨⟩⟩
    | some x => exact ⟨by rintro _ ⟨⟩; decide, by rintro _ ⟨⟩; decide⟩
  have hfraction : readFraction (f.elim [] ('.' :: ·) ++ x.elim [] exponentText) =
      some (f, x.elim [] exponentText) := by
    cases f with
    | none => exact readFraction_stops hstops.2
    | some ds =>
      obtain ⟨hd, hn⟩ := h.fraction ds rfl
      exact readFraction_point hd hn hstops.1
  have hwhole : Stops isDigit (f.elim [] ('.' :: ·) ++ x.elim [] exponentText) := by
    cases f with
    | none => exact hstops.1
    | some ds => rintro _ ⟨⟩; decide
  simp only [readUnsigned, text, List.append_assoc, readWhole_append h.whole hwhole,
    hfraction, hexponent, Option.bind_eq_bind, Option.bind_some, Option.pure_def]

theorem readLiteral_text (h : l.IsFormed) :
    readLiteral (if l.negative then '-' :: l.text else l.text) = some (l, []) := by
  have hr := readUnsigned_text h
  cases hn : l.negative with
  | true =>
    rw [hn] at hr
    exact hr
  | false =>
    have hu := readLiteral_unsigned (isUnsigned_text h) []
    rw [List.append_nil] at hu
    rw [hn] at hr
    exact hu.trans hr

/-- With its mark, it is no integer. -/
theorem number?_of_isWritten (h : l.IsWritten) :
    l.number? = (Decimal.scaled? l.negative l.decimal).map .double := by
  obtain ⟨negative, w, f, x⟩ := l
  cases f with
  | some ds => rfl
  | none =>
    cases x with
    | some x => rfl
    | none => exact absurd h.marked (by simp)

end Json.Literal

namespace Double

open Json

theorem isDigit_zeros {n : Nat} {c : Char} (h : c ∈ zeros n) : isDigit c = true := by
  rw [(List.mem_replicate.1 h).2]
  decide

theorem isWhole_zero : IsWhole ['0'] := ⟨fun _ => isDigit_zeros (n := 1), .inl rfl⟩

theorem wholeMark_document : Style.document.wholeMark.toList = ['.', '0'] := by decide

/-- The text is a literal with this sign and exponent and the digits of this decimal. -/
def Shows (negative : Bool) (x : Option Int) (d : Decimal) (t : List Char) : Prop :=
  ∃ l : Literal, l.IsWritten ∧ l.negative = negative ∧ l.exponent = x ∧ l.text = t ∧ l.full = d

section Layout

variable {d : Decimal} {c : Char} {cs : List Char}

theorem ofDigitChars_toDigits_zeros (n k : Nat) :
    Nat.ofDigitChars 10 (Nat.toDigits 10 n ++ zeros k) 0 = n * Nat.pow 10 k := by
  rw [Nat.pow_eq, Nat.ofDigitChars_append, Nat.ofDigitChars_ten_toDigits, zeros,
    Nat.ofDigitChars_replicate_zero, Nat.mul_comm]

theorem ofDigitChars_zeros_toDigits (n k : Nat) :
    Nat.ofDigitChars 10 (zeros k ++ Nat.toDigits 10 n) 0 = n := by
  rw [Nat.ofDigitChars_append, zeros, Nat.ofDigitChars_replicate_zero, Nat.mul_zero,
    Nat.ofDigitChars_ten_toDigits]

theorem isDigit_of_toDigits_eq (hc : Nat.toDigits 10 d.digits = c :: cs) :
    ∀ x ∈ c :: cs, isDigit x = true :=
  fun _ hx => isDigit_toDigits (hc ▸ hx)

theorem ofDigitChars_of_toDigits_eq (hc : Nat.toDigits 10 d.digits = c :: cs) :
    Nat.ofDigitChars 10 (c :: cs) 0 = d.digits :=
  hc ▸ Nat.ofDigitChars_ten_toDigits

theorem isWhole_zeros (hc : Nat.toDigits 10 d.digits = c :: cs) (h0 : c ≠ '0') (k : Nat) :
    IsWhole (c :: cs ++ zeros k) := by
  refine ⟨fun x hx => ?_, .inr ⟨c, _, rfl, h0⟩⟩
  rcases List.mem_append.1 hx with hx | hx
  · exact isDigit_of_toDigits_eq hc x hx
  · exact isDigit_zeros hx

theorem shows_whole (negative : Bool) (hc : Nat.toDigits 10 d.digits = c :: cs)
    (h0 : c ≠ '0') (k : Nat) :
    Shows negative none ⟨d.digits * Nat.pow 10 (k + 1), -1⟩
      (c :: cs ++ zeros k ++ ['.', '0']) := by
  have hz : c :: cs ++ zeros k ++ ['0'] = Nat.toDigits 10 d.digits ++ zeros (k + 1) := by
    rw [hc, List.append_assoc, zeros, zeros, List.replicate_succ']
  refine ⟨⟨negative, c :: cs ++ zeros k, some ['0'], none⟩, ?_, rfl, rfl, List.append_nil _, ?_⟩
  · exact Literal.isWritten_point _ _ (isWhole_zeros hc h0 k) (fun _ => isDigit_zeros (n := 1))
      (List.cons_ne_nil _ _)
  · simp only [Literal.full, Option.getD_some, Option.getD_none, hz, ofDigitChars_toDigits_zeros]
    rfl

theorem shows_among (negative : Bool) (hc : Nat.toDigits 10 d.digits = c :: cs)
    (h0 : c ≠ '0') {k : Nat} (hk : k < cs.length) (he : (k : Int) = cs.length + d.exponent) :
    Shows negative none d ((c :: cs).take (k + 1) ++ '.' :: (c :: cs).drop (k + 1)) := by
  have hd := isDigit_of_toDigits_eq hc
  have hw : IsWhole ((c :: cs).take (k + 1)) :=
    ⟨fun x hx => hd x (List.mem_of_mem_take hx), .inr ⟨c, _, rfl, h0⟩⟩
  have hn : (c :: cs).drop (k + 1) ≠ [] := by
    rw [List.drop_succ_cons, ne_eq, List.drop_eq_nil_iff]
    omega
  have hex : (0 : Int) - ((c :: cs).drop (k + 1)).length = d.exponent := by
    rw [List.length_drop, List.length_cons]
    omega
  refine ⟨⟨negative, (c :: cs).take (k + 1), some ((c :: cs).drop (k + 1)), none⟩, ?_, rfl,
    rfl, List.append_nil _, ?_⟩
  · exact Literal.isWritten_point _ _ hw (fun x hx => hd x (List.mem_of_mem_drop hx)) hn
  · simp only [Literal.full, Option.getD_some, Option.getD_none, List.take_append_drop,
      ofDigitChars_of_toDigits_eq hc, hex]

theorem shows_before (negative : Bool) (hc : Nat.toDigits 10 d.digits = c :: cs) {k : Nat}
    (he : (k : Int) = -(cs.length + 1) - d.exponent) :
    Shows negative none d ('0' :: '.' :: zeros k ++ c :: cs) := by
  have hd : ∀ x ∈ zeros k ++ c :: cs, isDigit x = true := by
    intro x hx
    rcases List.mem_append.1 hx with hx | hx
    · exact isDigit_zeros hx
    · exact isDigit_of_toDigits_eq hc x hx
  have hex : (0 : Int) - (zeros k ++ c :: cs).length = d.exponent := by
    rw [List.length_append, zeros, List.length_replicate, List.length_cons]
    omega
  have hz : Nat.ofDigitChars 10 (['0'] ++ (zeros k ++ c :: cs)) 0 = d.digits := by
    rw [← hc]
    exact ofDigitChars_zeros_toDigits d.digits (k + 1)
  refine ⟨⟨negative, ['0'], some (zeros k ++ c :: cs), none⟩, ?_, rfl, rfl, List.append_nil _, ?_⟩
  · exact Literal.isWritten_point _ _ isWhole_zero hd (by simp)
  · simp only [Literal.full, Option.getD_some, Option.getD_none, hz, hex]

theorem shows_exponent (negative : Bool) (hc : Nat.toDigits 10 d.digits = c :: cs)
    (h0 : c ≠ '0') {x : Int} (he : x = cs.length + d.exponent) :
    Shows negative (some x) d (match c :: cs with
      | [c] => c :: exponentText x
      | cs => cs.take 1 ++ '.' :: cs.drop 1 ++ exponentText x) := by
  have hd := isDigit_of_toDigits_eq hc
  have hvalue := ofDigitChars_of_toDigits_eq hc
  have hw : IsWhole [c] := ⟨fun x hx => hd x (by simp_all), .inr ⟨c, [], rfl, h0⟩⟩
  cases cs with
  | nil =>
    have hex : x - ([] : List Char).length = d.exponent := by omega
    refine ⟨⟨negative, [c], none, some x⟩, ⟨⟨hw, by rintro _ ⟨⟩⟩, .inr (by simp)⟩, rfl, rfl,
      rfl, ?_⟩
    simp only [Literal.full, Option.getD_some, Option.getD_none, List.append_nil, hvalue, hex]
  | cons b cs =>
    have hex : x - (b :: cs).length = d.exponent := by omega
    refine ⟨⟨negative, [c], some (b :: cs), some x⟩, ?_, rfl, rfl, rfl, ?_⟩
    · exact Literal.isWritten_point _ _ hw (fun x hx => hd x (List.mem_cons_of_mem _ hx))
        (List.cons_ne_nil _ _)
    · simp only [Literal.full, Option.getD_some, List.singleton_append, hvalue, hex]

theorem shows_layout (negative : Bool) (h : d.digits ≠ 0) :
    ∃ x, Shows negative x d.shown (Style.document.layout d) := by
  obtain ⟨c, cs, hc, h0⟩ := head_toDigits h
  have hfirst : d.first = ((c :: cs).length : Int) + d.exponent - 1 := by rw [Decimal.first, hc]
  have hlength : ((c :: cs).length : Int) = cs.length + 1 := by simp
  simp only [Style.layout, ← hfirst, hc]
  split
  · next hfull =>
    split
    · next he =>
      rw [Decimal.shown, if_pos ⟨he, hfull⟩, wholeMark_document]
      exact ⟨none, shows_whole negative hc h0 _⟩
    · next he =>
      rw [Decimal.shown, if_neg fun hs => he hs.1]
      split
      · exact ⟨none, shows_among negative hc h0 (by omega) (by omega)⟩
      · exact ⟨none, shows_before negative hc (by omega)⟩
  · next hfull =>
    rw [Decimal.shown, if_neg fun hs => hfull hs.2]
    exact ⟨_, shows_exponent negative hc h0 (by omega)⟩

theorem exists_layout_plain (negative : Bool) (h : d.digits ≠ 0) : ∃ l : Literal, l.IsFormed ∧
    l.negative = negative ∧ l.exponent = none ∧ l.text = Style.plain.layout d ∧
    l.full.rank = d.rank := by
  obtain ⟨c, cs, hc, h0⟩ := head_toDigits h
  have hlength : ((c :: cs).length : Int) = cs.length + 1 := by simp
  have of_shows {t : List Char} (hs : Shows negative none d t) : ∃ l : Literal, l.IsFormed ∧
      l.negative = negative ∧ l.exponent = none ∧ l.text = t ∧ l.full.rank = d.rank := by
    obtain ⟨l, hl, hn, hx, ht, hf⟩ := hs
    exact ⟨l, hl.toIsFormed, hn, hx, ht, by rw [hf]⟩
  simp only [Style.layout, Style.plain, hc, if_true]
  split
  · next he =>
    have hfull : Nat.ofDigitChars 10 (c :: cs ++ zeros d.exponent.toNat) 0 =
        d.digits * Nat.pow 10 d.exponent.toNat := hc ▸ ofDigitChars_toDigits_zeros _ _
    refine ⟨⟨negative, c :: cs ++ zeros d.exponent.toNat, none, none⟩,
      ⟨isWhole_zeros hc h0 _, by rintro _ ⟨⟩⟩, rfl, rfl, by simp [Literal.text], ?_⟩
    have hplace : (0 : Int) - (0 : Nat) + d.exponent.toNat = d.exponent := by omega
    simp only [Literal.full, Option.getD_none, List.append_nil, hfull, List.length_nil,
      Decimal.rank_tens, hplace]
  · split
    · exact of_shows (shows_among negative hc h0 (by omega) (by omega))
    · exact of_shows (shows_before negative hc (by omega))

end Layout

theorem exists_write (negative : Bool) (r : Fin count) : ∃ l : Literal, l.IsWritten ∧
    l.negative = negative ∧ (Double.finite negative r).write .document =
      (if l.negative then '-' :: l.text else l.text) ∧
    l.full = if r.val = 0 then ⟨0, -1⟩ else (Decimal.shortest .even r).shown := by
  by_cases hr : r.val = 0
  · refine ⟨⟨negative, ['0'], some ['0'], none⟩, ?_, rfl, ?_, (if_pos hr).symm⟩
    · exact Literal.isWritten_point _ _ isWhole_zero (fun _ => isDigit_zeros (n := 1))
        (List.cons_ne_nil _ _)
    · simp [write, hr, wholeMark_document, Literal.text]
  · have hd : (Decimal.shortest .even r).digits ≠ 0 := Decimal.digits_shortest hr
    obtain ⟨_, l, hl, rfl, _, ht, hf⟩ := shows_layout negative hd
    refine ⟨l, hl, rfl, ?_, by rw [if_neg hr, hf]⟩
    rw [write, if_neg hr, ht]
    rfl

/-- Every finite number is written as a literal. -/
theorem isLiteral_write (negative : Bool) (r : Fin count) :
    IsLiteral ((Double.finite negative r).write .document) := by
  obtain ⟨l, hl, _, hw, _⟩ := exists_write negative r
  rw [hw]
  split
  · exact .negative (Literal.isUnsigned_text hl.toIsFormed)
  · exact .positive (Literal.isUnsigned_text hl.toIsFormed)

/-- A finite number is shown without an exponent, and its digits name no other number. -/
theorem exists_text (negative : Bool) (r : Fin count) : ∃ l : Literal, l.IsFormed ∧
    l.negative = negative ∧ l.exponent = none ∧
    (Double.finite negative r).text.toList = (if l.negative then '-' :: l.text else l.text) ∧
    l.full.rank = r := by
  by_cases hr : r.val = 0
  · refine ⟨⟨negative, ['0'], none, none⟩, ⟨isWhole_zero, by rintro _ ⟨⟩⟩, rfl, rfl, ?_, ?_⟩
    · simp [text, write, hr, Style.plain, Literal.text]
    · exact (Decimal.rank_zero 0).trans hr.symm
  · have hd : (Decimal.shortest .up r).digits ≠ 0 := Decimal.digits_shortest hr
    obtain ⟨l, hl, rfl, hx, ht, hf⟩ := exists_layout_plain negative hd
    refine ⟨l, hl, rfl, hx, ?_, hf.trans (Decimal.rank_shortest _ _)⟩
    rw [text, String.toList_ofList, write, if_neg hr, ht]
    rfl

theorem readLiteral_text (negative : Bool) (r : Fin count) :
    ∃ l : Literal, readLiteral (Double.finite negative r).text.toList = some (l, []) ∧
      l.negative = negative ∧ l.full.rank = r := by
  obtain ⟨l, hl, hn, -, ht, hf⟩ := exists_text negative r
  exact ⟨l, by rw [ht, Literal.readLiteral_text hl], hn, hf⟩

theorem finite_of_text_eq {d : Double} {negative : Bool} {r : Fin count}
    (h : d.text = (Double.finite negative r).text) : d = .finite negative r := by
  obtain ⟨l, hread, rfl, hr⟩ := readLiteral_text negative r
  rw [← h] at hread
  cases d with
  | nan => cases hread
  | infinite b => cases b <;> cases hread
  | finite b q =>
    obtain ⟨m, hm, rfl, hq⟩ := readLiteral_text b q
    cases hm.symm.trans hread
    rw [Fin.ext (hq.symm.trans hr)]

/-- No two numbers are shown alike. -/
theorem eq_of_text_eq {d e : Double} (h : d.text = e.text) : d = e := by
  cases d with
  | finite => exact (finite_of_text_eq h.symm).symm
  | nan =>
    cases e with
    | nan => rfl
    | infinite b => cases b <;> exact absurd h (by decide)
    | finite => exact finite_of_text_eq h
  | infinite b =>
    cases e with
    | nan => cases b <;> exact absurd h (by decide)
    | infinite b' => cases b <;> cases b' <;> first | rfl | exact absurd h (by decide)
    | finite => exact finite_of_text_eq h

end Double

end Herald
