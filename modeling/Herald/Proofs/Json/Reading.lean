import Herald.Json.Reader
import Herald.Proofs.Json.Literals
/-!
Written values are read again: as documents in which every text stands for itself and every number
for what its literal says.
-/

set_option autoImplicit false

namespace Herald

namespace Json

theorem hexValue?_hexDigit : ∀ n < 16, hexValue? (hexDigit n) = some n := by decide

theorem readPieces_escape {e c : Char} (h : escape? e = some c) (r : List Char) :
    readPieces ('\\' :: e :: r) = (readPieces r).map fun p => (.char c :: p.1, p.2) := by
  rw [readPieces.eq_def]
  split
  · next heq => cases heq
  · next heq => cases heq
  · next heq =>
    cases heq
    have hu : escape? 'u' = none := by decide
    rw [hu] at h
    cases h
  · next heq =>
    cases heq
    rw [h]
    cases readPieces r <;> rfl
  · next h1 heq =>
    cases heq
    exact (h1 e r rfl rfl).elim

theorem readPieces_unit {n : Nat} (h : n < 256) (r : List Char) :
    readPieces ('\\' :: 'u' :: '0' :: '0' :: hexDigit (n / 16) :: hexDigit (n % 16) :: r) =
      (readPieces r).map fun p => (.unit n :: p.1, p.2) := by
  have hu : hexUnit? '0' '0' (hexDigit (n / 16)) (hexDigit (n % 16)) = some n := by
    have h0 : hexValue? '0' = some 0 := by decide
    simp only [hexUnit?, h0, hexValue?_hexDigit (n / 16) (by omega),
      hexValue?_hexDigit (n % 16) (by omega),
      Option.bind_eq_bind, Option.bind_some, Option.pure_def, Option.some.injEq]
    omega
  rw [readPieces, hu]
  cases readPieces r <;> rfl

theorem readPieces_plain {c : Char} (hq : c ≠ '"') (hb : c ≠ '\\') (hc : ¬ c.toNat < 0x20)
    (r : List Char) : readPieces (c :: r) = (readPieces r).map fun p => (.char c :: p.1, p.2) := by
  rw [readPieces.eq_def]
  split
  · next heq => cases heq
  · next heq => exact absurd (List.cons.inj heq).1 hq
  · next heq => exact absurd (List.cons.inj heq).1 hb
  · next heq => exact absurd (List.cons.inj heq).1 hb
  · next heq =>
    cases heq
    rw [if_neg hc]

theorem readPieces_escaped (c : Char) : ∃ p :
    Piece, (p = .char c ∨ p = .unit c.toNat ∧ c.toNat < 0x20) ∧
    ∀ r, readPieces (escaped c ++ r) = (readPieces r).map fun q => (p :: q.1, q.2) := by
  unfold escaped
  split
  case h_8 hq hb _ _ _ _ _ =>
    split
    · next hc => exact ⟨.unit c.toNat, .inr ⟨rfl, hc⟩, fun r => readPieces_unit (by omega) r⟩
    · next hc => exact ⟨.char c, .inl rfl, fun r => readPieces_plain hq hb hc r⟩
  all_goals exact ⟨.char _, .inl rfl, fun r => readPieces_escape (by decide) r⟩

theorem joinPieces_unit {n : Nat} (h : n < 0xD800) (ps : List Piece) :
    joinPieces (.unit n :: ps) = (joinPieces ps).map (Char.ofNat n :: ·) := by
  have hh : isHighHalf n = false := by simp [isHighHalf]; omega
  have hl : isLowHalf n = false := by simp [isLowHalf]; omega
  rw [joinPieces.eq_def]
  split
  · next heq => cases heq
  · next heq => cases heq
  · next heq =>
    cases heq
    simp [hh, hl]
  · next heq =>
    cases heq
    simp [hh, hl]

theorem joinPieces_cons {c : Char} {p : Piece}
    (h : p = .char c ∨ p = .unit c.toNat ∧ c.toNat < 0x20)
    (ps : List Piece) : joinPieces (p :: ps) = (joinPieces ps).map (c :: ·) := by
  rcases h with rfl | ⟨rfl, hc⟩
  · rfl
  · rw [joinPieces_unit (by omega), Char.ofNat_toNat]

theorem readPieces_flatMap (cs r : List Char) :
    ∃ ps, readPieces (cs.flatMap escaped ++ '"' :: r) = some (ps, r) ∧ joinPieces ps = some cs := by
  induction cs with
  | nil => exact ⟨[], rfl, rfl⟩
  | cons c cs ih =>
    obtain ⟨ps, hr, hj⟩ := ih
    obtain ⟨p, hp, hread⟩ := readPieces_escaped c
    refine ⟨p :: ps, ?_, ?_⟩
    · rw [List.flatMap_cons, List.append_assoc, hread, hr]
      rfl
    · rw [joinPieces_cons hp, hj]
      rfl

theorem readText_flatMap (s : String) (r : List Char) :
    readText (s.toList.flatMap escaped ++ '"' :: r) = some (some s, r) := by
  obtain ⟨ps, hr, hj⟩ := readPieces_flatMap s.toList r
  simp [readText, hr, hj]

namespace Doc

def ofNumber (n : Number) : Doc :=
  match readLiteral n.write with
  | some (l, _) => .number l.number?
  | none => .null

mutual

/-- What the text of a value is read as. -/
def ofJson : Json → Doc
  | .null => .null
  | .bool b => .bool b
  | .number n => ofNumber n
  | .text s => .text (some s)
  | .array items => .array (ofItems items)
  | .object members => .object (ofMembers members)

def ofItems : List Json → List Doc
  | [] => []
  | j :: js => ofJson j :: ofItems js

def ofMembers : List (String × Json) → List (Option String × Doc)
  | [] => []
  | (k, j) :: ms => (some k, ofJson j) :: ofMembers ms

end

theorem ends_nil : Ends [] := by
  rintro c ⟨⟩

theorem ends_cons {c : Char} (h : isMark c = true) (r : List Char) : Ends (c :: r) := by
  rintro _ ⟨⟩
  exact h

theorem isLiteral_or_null (n : Number) : IsLiteral n.write ∨ n.write = ['n', 'u', 'l', 'l'] := by
  cases n with
  | integer i => exact .inl (isLiteral_writeInt i)
  | double d =>
    cases d with
    | finite negative r => exact .inl (Double.isLiteral_write negative r)
    | nan => exact .inr (by decide)
    | infinite negative => exact .inr (by cases negative <;> decide)

theorem isSpace_of_isDigit {c : Char} (h : isDigit c = true) : isSpace c = false := by
  cases hs : isSpace c with
  | false => rfl
  | true =>
    simp only [isSpace, Bool.or_eq_true, decide_eq_true_eq] at hs
    rcases hs with ((rfl | rfl) | rfl) | rfl <;> revert h <;> decide

def Starts (s : List Char) : Prop := ∃ c r, s = c :: r ∧ isSpace c = false ∧ c ≠ ']'

theorem starts_write (j : Json) : Starts j.write := by
  cases j with
  | null => exact ⟨'n', _, rfl, by decide, by decide⟩
  | bool b =>
    cases b with
    | true => exact ⟨'t', _, rfl, by decide, by decide⟩
    | false => exact ⟨'f', _, rfl, by decide, by decide⟩
  | number n =>
    rw [write]
    rcases isLiteral_or_null n with h | h
    · obtain ⟨c, cs, hc, hd⟩ := head_isLiteral h
      refine ⟨c, cs, hc, ?_, ?_⟩
      · rcases hd with rfl | hd
        · decide
        · exact isSpace_of_isDigit hd
      · rintro rfl
        rcases hd with hd | hd <;> revert hd <;> decide
    · exact ⟨'n', _, h, by decide, by decide⟩
  | text s => exact ⟨'"', _, by rw [write, quoted]; rfl, by decide, by decide⟩
  | array items => exact ⟨'[', _, by rw [write]; rfl, by decide, by decide⟩
  | object members => exact ⟨'\x7b', _, by rw [write]; rfl, by decide, by decide⟩

theorem skipSpace_cons {c : Char} (h : isSpace c = false) (r : List Char) :
    skipSpace (c :: r) = c :: r := by
  simp [skipSpace, h]

theorem readValue_literal {t : List Char} (ht : IsLiteral t) (fuel : Nat) (r : List Char) :
    readValue (fuel + 1) (t ++ r) =
      (readLiteral (t ++ r)).map fun p => (.number p.1.number?, p.2) := by
  obtain ⟨c, cs, rfl, hc⟩ := head_isLiteral ht
  have hne : ∀ d, d ∈ ['n', 't', 'f', '"', '[', '{'] → c ≠ d := by
    rintro d hd rfl
    rcases hc with rfl | hc
    · revert hd; decide
    · simp only [List.mem_cons, List.not_mem_nil, or_false] at hd
      rcases hd with rfl | rfl | rfl | rfl | rfl | rfl <;> revert hc <;> decide
  rw [List.cons_append, readValue.eq_def]
  simp only
  split
  · next heq => exact absurd (List.cons.inj heq).1 (hne 'n' (by decide))
  · next heq => exact absurd (List.cons.inj heq).1 (hne 't' (by decide))
  · next heq => exact absurd (List.cons.inj heq).1 (hne 'f' (by decide))
  · next heq => exact absurd (List.cons.inj heq).1 (hne '"' (by decide))
  · next heq => exact absurd (List.cons.inj heq).1 (hne '[' (by decide))
  · next heq => exact absurd (List.cons.inj heq).1 (hne '{' (by decide))
  · rfl

theorem readValue_number (n : Number) {r : List Char} (hr : Ends r) (fuel : Nat) :
    readValue (fuel + 1) (n.write ++ r) = some (ofNumber n, r) := by
  unfold ofNumber
  rcases isLiteral_or_null n with h | h
  · obtain ⟨l, hl⟩ := readLiteral_append h
    have h0 := hl [] ends_nil
    rw [List.append_nil] at h0
    rw [readValue_literal h, hl r hr, h0]
    rfl
  · rw [h]
    rfl

theorem Starts.append {s : List Char} (h : Starts s) (r : List Char) : Starts (s ++ r) := by
  obtain ⟨c, cs, rfl, hs, hb⟩ := h
  exact ⟨c, cs ++ r, rfl, hs, hb⟩

theorem Starts.skipSpace {s : List Char} (h : Starts s) : skipSpace s = s := by
  obtain ⟨c, cs, rfl, hs, _⟩ := h
  exact skipSpace_cons hs cs

theorem writeItems_cons (j k : Json) (ks : List Json) :
    writeItems (j :: k :: ks) = j.write ++ ',' :: writeItems (k :: ks) := rfl

theorem writeMembers_cons (k : String) (j : Json) (m : String × Json) (ms : List (String × Json)) :
    writeMembers ((k, j) :: m :: ms) =
      quoted k ++ ':' :: j.write ++ ',' :: writeMembers (m :: ms) := rfl

theorem starts_writeItems (j : Json) (js : List Json) : Starts (writeItems (j :: js)) := by
  cases js with
  | nil => exact starts_write j
  | cons k ks => exact (starts_write j).append _

theorem readValue_items (fuel : Nat) {s : List Char} (hs : Starts s) :
    readValue (fuel + 1) ('[' :: s) = (readItems fuel s).map fun p => (.array p.1, p.2) := by
  simp only [readValue, hs.skipSpace]
  split
  · obtain ⟨c, cs, hc, _, hb⟩ := hs
    exact absurd (List.cons.inj hc).1.symm hb
  · rfl

theorem readValue_members (fuel : Nat) (s : List Char) :
    readValue (fuel + 1) ('{' :: '"' :: s) =
      (readMembers fuel ('"' :: s)).map fun p => (.object p.1, p.2) := rfl

theorem readItems_last {fuel : Nat} {s r : List Char} {d : Doc}
    (h : readValue fuel s = some (d, ']' :: r)) : readItems (fuel + 1) s = some ([d], r) := by
  rw [readItems, h]
  rfl

theorem readItems_next {fuel : Nat} {s t : List Char} {d : Doc}
    (h : readValue fuel s = some (d, ',' :: t)) (ht : Starts t) :
    readItems (fuel + 1) s = (readItems fuel t).map fun p => (d :: p.1, p.2) := by
  rw [readItems, h]
  simp only [Option.bind_eq_bind, Option.bind_some,
    skipSpace_cons (c := ',') (by decide), ht.skipSpace]
  cases readItems fuel t <;> rfl

theorem readMembers_last {fuel : Nat} {k : String} {s r : List Char} {d : Doc} (hs : Starts s)
    (h : readValue fuel s = some (d, '}' :: r)) :
    readMembers (fuel + 1) (quoted k ++ ':' :: s) = some ([(some k, d)], r) := by
  have hk := readText_flatMap k (':' :: s)
  simp only [quoted, List.cons_append, List.append_assoc, List.nil_append, readMembers]
  rw [hk]
  simp only [Option.bind_eq_bind, Option.bind_some, skipSpace_cons (c := ':') (by decide),
    hs.skipSpace, h]
  rfl

theorem readMembers_next {fuel : Nat} {k : String} {s t : List Char} {d : Doc} (hs : Starts s)
    (h : readValue fuel s = some (d, ',' :: t)) (ht : Starts t) :
    readMembers (fuel + 1) (quoted k ++ ':' :: s) =
      (readMembers fuel t).map fun p => ((some k, d) :: p.1, p.2) := by
  have hk := readText_flatMap k (':' :: s)
  simp only [quoted, List.cons_append, List.append_assoc, List.nil_append, readMembers]
  rw [hk]
  simp only [Option.bind_eq_bind, Option.bind_some, skipSpace_cons (c := ':') (by decide),
    hs.skipSpace, h, skipSpace_cons (c := ',') (by decide), ht.skipSpace]
  cases readMembers fuel t <;> rfl

theorem starts_writeMembers (m : String × Json) (ms : List (String × Json)) :
    ∃ s, writeMembers (m :: ms) = '"' :: s := by
  cases ms with
  | nil => exact ⟨_, rfl⟩
  | cons n ns => exact ⟨_, rfl⟩

mutual

/-- The reader takes the text of a value and nothing more; two calls for each character are
enough. -/
theorem readValue_write : ∀ (j : Json) (fuel : Nat)
    (r : List Char), 2 * j.write.length ≤ fuel → Ends r →
    readValue fuel (j.write ++ r) = some (ofJson j, r)
  | j, 0, r, hf, _ => by
    obtain ⟨c, cs, hc, _⟩ := starts_write j
    simp [hc] at hf
  | .null, fuel + 1, r, _, _ => rfl
  | .bool true, fuel + 1, r, _, _ => rfl
  | .bool false, fuel + 1, r, _, _ => rfl
  | .number n, fuel + 1, r, _, hr => by
    rw [write, ofJson]
    exact readValue_number n hr fuel
  | .text s, fuel + 1, r, _, _ => by
    have h := readText_flatMap s r
    rw [write, quoted, List.append_assoc]
    simp only [List.cons_append, List.nil_append, readValue]
    rw [h]
    rfl
  | .array [], fuel + 1, r, _, _ => rfl
  | .array (j :: js), fuel + 1, r, hf, _ => by
    rw [write] at hf ⊢
    simp only [List.length_cons, List.length_append, List.length_nil] at hf
    have h := readItems_write j js fuel r (by omega)
    simp only [List.cons_append, List.append_assoc, List.nil_append]
    rw [readValue_items fuel ((starts_writeItems j js).append _), h]
    rfl
  | .object [], fuel + 1, r, _, _ => rfl
  | .object (m :: ms), fuel + 1, r, hf, _ => by
    rw [write] at hf ⊢
    simp only [List.length_cons, List.length_append, List.length_nil] at hf
    have h := readMembers_write m ms fuel r (by omega)
    obtain ⟨s, hs⟩ := starts_writeMembers m ms
    rw [hs] at h ⊢
    simp only [List.cons_append, List.append_assoc, List.nil_append] at h ⊢
    rw [readValue_members, h]
    rfl

theorem readItems_write : ∀ (j : Json) (js : List Json) (fuel : Nat) (r : List Char),
    2 * (writeItems (j :: js)).length + 1 ≤ fuel →
    readItems fuel (writeItems (j :: js) ++ ']' :: r) = some (ofItems (j :: js), r)
  | _, _, 0, _, hf => by omega
  | j, [], fuel + 1, r, hf => by
    rw [writeItems] at hf ⊢
    exact readItems_last (readValue_write j fuel _ (by omega) (ends_cons (by decide) r))
  | j, k :: ks, fuel + 1, r, hf => by
    rw [writeItems_cons] at hf ⊢
    simp only [List.length_append, List.length_cons] at hf
    have hj := readValue_write j fuel (',' :: (writeItems (k :: ks) ++ ']' :: r)) (by omega)
      (ends_cons (by decide) _)
    have hks := readItems_write k ks fuel r (by omega)
    rw [List.append_assoc, List.cons_append,
      readItems_next hj ((starts_writeItems k ks).append _), hks]
    rfl

theorem readMembers_write : ∀ (m : String × Json) (ms : List (String × Json)) (fuel : Nat)
    (r : List Char), 2 * (writeMembers (m :: ms)).length + 1 ≤ fuel →
    readMembers fuel (writeMembers (m :: ms) ++ '}' :: r) = some (ofMembers (m :: ms), r)
  | _, _, 0, _, hf => by omega
  | (k, j), [], fuel + 1, r, hf => by
    rw [writeMembers] at hf ⊢
    simp only [List.length_append, List.length_cons] at hf
    have hj := readValue_write j fuel ('}' :: r) (by omega) (ends_cons (by decide) r)
    rw [List.append_assoc, List.cons_append]
    exact readMembers_last ((starts_write j).append _) hj
  | (k, j), m :: ms, fuel + 1, r, hf => by
    rw [writeMembers_cons] at hf ⊢
    simp only [List.length_append, List.length_cons] at hf
    have hj := readValue_write j fuel (',' :: (writeMembers (m :: ms) ++ '}' :: r)) (by omega)
      (ends_cons (by decide) _)
    have hms := readMembers_write m ms fuel r (by omega)
    obtain ⟨s, hs⟩ := starts_writeMembers m ms
    have ht : Starts (writeMembers (m :: ms) ++ '}' :: r) :=
      ⟨'"', _, by rw [hs]; rfl, by decide, by decide⟩
    simp only [List.append_assoc, List.cons_append]
    rw [readMembers_next ((starts_write j).append _) hj ht, hms]
    rfl

end

theorem read?_write (j : Json) : read? j.write = some (ofJson j) := by
  have h := readValue_write j (fuelFor j.write) [] (by simp [fuelFor]) ends_nil
  rw [List.append_nil] at h
  simp only [read?, (starts_write j).skipSpace, h]
  rfl

theorem read?_toText (j : Json) : read? j.toText.toList = some (ofJson j) := by
  rw [toText, String.toList_ofList]
  exact read?_write j

end Doc

end Json

end Herald
