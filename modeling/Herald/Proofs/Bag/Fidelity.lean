import Herald.Proofs.Bag.Legibility
/-!
What a text keeps. An integer is kept if 64 bits hold it, a double if the fast reading of its digits
comes out at it again; an object must have its members in order, and nothing may nest too deep.
-/

set_option autoImplicit false

namespace Herald

namespace Json

def Number.kept (n : Number) : Bool :=
  match Doc.ofNumber n with
  | .number (some m) => m.same n
  | _ => false

theorem readUnsigned_toDigits (negative : Bool) (n : Nat) :
    readUnsigned negative (Nat.toDigits 10 n) =
      some (⟨negative, Nat.toDigits 10 n, none, none⟩, []) := by
  have hw := readWhole_append (isWhole_toDigits n) (r := []) (by rintro _ ⟨⟩)
  rw [List.append_nil] at hw
  simp [readUnsigned, hw, readFraction, readExponent]

theorem readLiteral_writeInt (i : Int) :
    readLiteral (writeInt i) =
      some (⟨decide (i < 0), Nat.toDigits 10 i.natAbs, none, none⟩, []) := by
  have hu := readLiteral_unsigned (isUnsigned_toDigits i.natAbs) []
  rw [List.append_nil] at hu
  by_cases h : i < 0
  · rw [writeInt, if_pos h, readLiteral, readUnsigned_toDigits, decide_eq_true h]
  · rw [writeInt, if_neg h, hu, readUnsigned_toDigits, decide_eq_false h]

namespace Doc

theorem ofNumber_integer (i : Int) : ofNumber (.integer i) =
    .number (Literal.number? ⟨decide (i < 0), Nat.toDigits 10 i.natAbs, none, none⟩) := by
  simp only [ofNumber, Number.write, readLiteral_writeInt]

theorem ofNumber_of_fits {i : Int} (lower : -9223372036854775808 ≤ i)
    (upper : i < 18446744073709551616) : ofNumber (.integer i) = .number (some (.integer i)) := by
  have hs : UInt64.size = 18446744073709551616 := rfl
  rw [ofNumber_integer]
  by_cases h : i < 0
  · have hn : 0 < i.natAbs ∧ i.natAbs ≤ 9223372036854775808 := by omega
    have hi : -(i.natAbs : Int) = i := by omega
    simp only [Literal.number?, digitsValue_toDigits, decide_eq_true h,
      Bool.not_true, Bool.false_and,
      Bool.false_eq_true, if_false, Bool.true_and, decide_eq_true hn.1,
        decide_eq_true hn.2, if_true, hi]
  · have hn : i.natAbs < 18446744073709551616 := by omega
    have hi : (i.natAbs : Int) = i := by omega
    simp only [Literal.number?, digitsValue_toDigits, decide_eq_false h, Bool.not_false,
      Bool.true_and, hs, decide_eq_true hn, if_true, hi]

theorem ofNumber_of_not_fits {i : Int}
    (h : ¬ (-9223372036854775808 ≤ i ∧ i < 18446744073709551616)) :
    ∃ x : Option Double, ofNumber (.integer i) = .number (x.map .double) := by
  have hs : UInt64.size = 18446744073709551616 := rfl
  let l : Literal := ⟨decide (i < 0), Nat.toDigits 10 i.natAbs, none, none⟩
  refine ⟨Decimal.scaled? l.negative l.decimal, ?_⟩
  rw [ofNumber_integer]
  by_cases hi : i < 0
  · have hn : ¬ i.natAbs ≤ 9223372036854775808 := by omega
    simp only [Literal.number?, digitsValue_toDigits, decide_eq_true hi,
      Bool.not_true, Bool.false_and,
      Bool.false_eq_true, if_false, Bool.true_and, decide_eq_false hn, Bool.and_false, l]
  · have hn : ¬ i.natAbs < 18446744073709551616 := by omega
    simp only [Literal.number?, digitsValue_toDigits, decide_eq_false hi, Bool.not_false,
      Bool.true_and, hs, decide_eq_false hn, Bool.false_and, Bool.false_eq_true, if_false, l]

end Doc

theorem Number.kept_integer {i : Int} : (integer i).kept = true ↔
    -9223372036854775808 ≤ i ∧ i < 18446744073709551616 := by
  by_cases h : -9223372036854775808 ≤ i ∧ i < 18446744073709551616
  · simp only [kept, Doc.ofNumber_of_fits h.1 h.2, same, beq_self_eq_true, h, and_self]
  · obtain ⟨x, hx⟩ := Doc.ofNumber_of_not_fits h
    cases x <;> simp [kept, hx, same, h]

end Json

namespace Double

open Json

/-- What is written of a double is never read as an integer. -/
theorem ofNumber_finite (negative : Bool) (r : Fin count) : ∃ l : Literal,
    l.full = (if r.val = 0 then ⟨0, -1⟩ else (Decimal.shortest .even r).shown) ∧
    Doc.ofNumber (.double (.finite negative r)) =
      .number ((Decimal.scaled? negative l.decimal).map .double) := by
  obtain ⟨l, hl, rfl, hw, hf⟩ := exists_write negative r
  have hnumber : (Number.double (.finite l.negative r)).write = if l.negative then '-' :: l.text
    else l.text := hw
  exact ⟨l, hf, by simp only [Doc.ofNumber, hnumber, Literal.readLiteral_text hl.toIsFormed,
    Literal.number?_of_isWritten hl]⟩

end Double

namespace Json

mutual

/-- Its numbers are kept, and its objects have their members in order. -/
def kept : Json → Bool
  | .null | .bool _ | .text _ => true
  | .number n => n.kept
  | .array items => keptItems items
  | .object members => decide (members.Pairwise fun a b => a.1 < b.1) && keptMembers members

def keptItems : List Json → Bool
  | [] => true
  | j :: js => j.kept && keptItems js

def keptMembers : List (String × Json) → Bool
  | [] => true
  | (_, j) :: ms => j.kept && keptMembers ms

end

mutual

def depth : Json → Nat
  | .null | .bool _ | .number _ | .text _ => 0
  | .array items => depthItems items + 1
  | .object members => depthMembers members + 1

def depthItems : List Json → Nat
  | [] => 0
  | j :: js => max j.depth (depthItems js)

def depthMembers : List (String × Json) → Nat
  | [] => 0
  | (_, j) :: ms => max j.depth (depthMembers ms)

end

namespace Doc

theorem ofNumber_of_kept {n : Number} (h : n.kept = true) :
    ∃ m, ofNumber n = .number (some m) ∧ m.same n = true := by
  unfold Number.kept at h
  split at h
  · next m hm => exact ⟨m, hm, h⟩
  · cases h

mutual

theorem sound_ofJson (room : Nat) : ∀ j : Json, j.kept = true →
    ((ofJson j).sound room = true ↔ j.depth ≤ room)
  | .null, _ => by simp [ofJson, sound, depth]
  | .bool b, _ => by simp [ofJson, sound, depth]
  | .text s, _ => by simp [ofJson, sound, depth]
  | .number n, h => by
    obtain ⟨m, hm, _⟩ := ofNumber_of_kept h
    simp [ofJson, hm, sound, depth]
  | .array items, h => by
    have hi := soundItems_ofItems (room - 1) items h
    simp only [ofJson, sound, depth, Bool.and_eq_true, decide_eq_true_eq, hi]
    omega
  | .object members, h => by
    rw [kept, Bool.and_eq_true] at h
    have hm := soundMembers_ofMembers (room - 1) members h.2
    simp only [ofJson, sound, depth, Bool.and_eq_true, decide_eq_true_eq, hm]
    omega

theorem soundItems_ofItems (room : Nat) : ∀ js : List Json, keptItems js = true →
    (soundItems room (ofItems js) = true ↔ depthItems js ≤ room)
  | [], _ => by simp [ofItems, soundItems, depthItems]
  | j :: js, h => by
    rw [keptItems, Bool.and_eq_true] at h
    simp only [ofItems, soundItems, depthItems, Bool.and_eq_true, sound_ofJson room j h.1,
      soundItems_ofItems room js h.2, Nat.max_le]

theorem soundMembers_ofMembers (room : Nat) : ∀ ms : List (String × Json), keptMembers ms = true →
    (soundMembers room (ofMembers ms) = true ↔ depthMembers ms ≤ room)
  | [], _ => by simp [ofMembers, soundMembers, depthMembers]
  | (k, j) :: ms, h => by
    rw [keptMembers, Bool.and_eq_true] at h
    simp only [ofMembers, soundMembers, depthMembers, Option.isSome_some, Bool.true_and,
      Bool.and_eq_true, sound_ofJson room j h.1, soundMembers_ofMembers room ms h.2, Nat.max_le]

end

theorem entries?_eq (ms : List (Option String × Doc)) : entries? ms = readEntries? value? ms := by
  induction ms with
  | nil => rfl
  | cons m ms ih =>
    obtain ⟨k, d⟩ := m
    rw [entries?, readEntries?, ih]

end Doc

theorem keys_of_sameMembers : ∀ {l m : List (String × Json)}, sameMembers l m = true →
    l.map (·.1) = m.map (·.1)
  | [], [], _ => rfl
  | (k, x) :: l, (k', y) :: m, h => by
    simp only [sameMembers, Bool.and_eq_true, beq_iff_eq] at h
    simp only [List.map_cons, h.1.1, keys_of_sameMembers h.2]

namespace Doc

mutual

theorem value?_ofJson_iff : ∀ j : Json,
    (∃ k, (ofJson j).value? = some k ∧ k.same j = true) ↔ j.kept = true
  | .null => by simp [ofJson, value?, same, kept]
  | .bool b => by simp [ofJson, value?, same, kept]
  | .text s => by simp [ofJson, value?, same, kept]
  | .number n => by
    rw [ofJson, kept, Number.kept]
    cases ofNumber n with
    | number x => cases x <;> simp [value?, same]
    | text s => cases s <;> simp [value?, same]
    | array ds => cases hv : values? ds <;> simp [value?, hv, same]
    | object ms => cases hv : entries? ms <;> simp [value?, hv, same]
    | null | bool b => simp [value?, same]
  | .array items => by
    rw [kept, ← values?_ofItems_iff items, ofJson, value?]
    constructor
    · rintro ⟨k, hk, hs⟩
      obtain ⟨ks, hks, rfl⟩ := Option.map_eq_some_iff.1 hk
      exact ⟨ks, hks, hs⟩
    · rintro ⟨ks, hks, hs⟩
      exact ⟨.array ks, by rw [hks]; rfl, hs⟩
  | .object members => by
    rw [kept, Bool.and_eq_true, decide_eq_true_eq, ← entries?_ofMembers_iff members, ofJson, value?]
    constructor
    · rintro ⟨k, hk, hs⟩
      obtain ⟨es, hes, rfl⟩ := Option.map_eq_some_iff.1 hk
      have hkeys := keys_readEntries? (entries?_eq _ ▸ hes)
      have hsorted := Dict.pairwise_of_keys (keys_of_sameMembers hs).symm (Dict.ofList es).sorted
      rw [same, Dict.entries_ofList (Dict.pairwise_of_keys hkeys hsorted)] at hs
      exact ⟨hsorted, es, hes, hs⟩
    · rintro ⟨hsorted, es, hes, hs⟩
      have hkeys := keys_readEntries? (entries?_eq _ ▸ hes)
      refine ⟨.object (Dict.ofList es).entries, by rw [hes]; rfl, ?_⟩
      rw [same, Dict.entries_ofList (Dict.pairwise_of_keys hkeys hsorted)]
      exact hs

theorem values?_ofItems_iff : ∀ js : List Json,
    (∃ ks, values? (ofItems js) = some ks ∧ sameItems ks js = true) ↔ keptItems js = true
  | [] => by simp [ofItems, values?, sameItems, keptItems]
  | j :: js => by
    rw [keptItems, Bool.and_eq_true, ← value?_ofJson_iff j, ← values?_ofItems_iff js]
    simp only [ofItems, values?, Option.bind_eq_bind, Option.bind_eq_some_iff, Option.pure_def,
      Option.some.injEq]
    constructor
    · rintro ⟨_, ⟨k, hk, ks, hks, rfl⟩, hs⟩
      rw [sameItems, Bool.and_eq_true] at hs
      exact ⟨⟨k, hk, hs.1⟩, ks, hks, hs.2⟩
    · rintro ⟨⟨k, hk, hs⟩, ks, hks, hss⟩
      exact ⟨k :: ks, ⟨k, hk, ks, hks, rfl⟩, by rw [sameItems, hs, hss]; rfl⟩

theorem entries?_ofMembers_iff : ∀ ms : List (String × Json),
    (∃ es, entries? (ofMembers ms) = some es ∧ sameMembers es ms = true) ↔ keptMembers ms = true
  | [] => by simp [ofMembers, entries?, sameMembers, keptMembers]
  | (name, j) :: ms => by
    rw [keptMembers, Bool.and_eq_true, ← value?_ofJson_iff j, ← entries?_ofMembers_iff ms]
    simp only [ofMembers, entries?, Option.bind_eq_bind, Option.bind_some, Option.bind_eq_some_iff,
      Option.pure_def, Option.some.injEq]
    constructor
    · rintro ⟨_, ⟨k, hk, es, hes, rfl⟩, hs⟩
      rw [sameMembers, Bool.and_eq_true, Bool.and_eq_true] at hs
      exact ⟨⟨k, hk, hs.1.2⟩, es, hes, hs.2⟩
    · rintro ⟨⟨k, hk, hs⟩, es, hes, hss⟩
      refine ⟨(name, k) :: es, ⟨k, hk, es, hes, rfl⟩, ?_⟩
      rw [sameMembers, hs, hss, beq_self_eq_true]
      rfl

end

end Doc

end Json

open Json

namespace Value

def kept : Value → Bool
  | .text _ | .integer _ | .boolean _ => true
  | .double d => (Number.double d).kept
  | .json j => j.kept

def depth : Value → Nat
  | .json j => j.depth
  | .text _ | .integer _ | .double _ | .boolean _ => 0

theorem ofJson_content_integer (i : Int64) :
    Doc.ofJson (content (.integer i)) = .number (some (.integer i.toInt)) := by
  have lower := i.le_toInt
  have upper := i.toInt_lt
  exact Doc.ofNumber_of_fits (by omega) (by omega)

theorem ofJson_content_double (d : Double) :
    (∃ e, Doc.ofJson (content (.double d)) = .number (some (.double e)) ∧
      (kept (.double d) = true ↔ e.same d = true)) ∨
    (Doc.ofJson (content (.double d))).double? = none ∧ kept (.double d) = false := by
  cases d with
  | nan => exact .inr ⟨rfl, by decide⟩
  | infinite negative => exact .inr ⟨rfl, by cases negative <;> decide⟩
  | finite negative r =>
    have hc : Doc.ofJson (content (.double (.finite negative r))) =
        Doc.ofNumber (.double (.finite negative r)) := rfl
    obtain ⟨l, _, hl⟩ := Double.ofNumber_finite negative r
    rw [hc, kept, Number.kept, hl]
    cases Decimal.scaled? negative l.decimal with
    | none => exact .inr ⟨rfl, rfl⟩
    | some e => exact .inl ⟨e, rfl, Iff.rfl⟩

theorem ofContent?_content_iff {v : Value} {room : Nat} :
    (∃ u, ofContent? room (Doc.ofJson v.content) v.kind = some u ∧ u.same v = true) ↔
      v.kept = true ∧ v.depth ≤ room := by
  cases v with
  | text s => simp [content, Doc.ofJson, kind, ofContent?, Doc.text?, same, kept, depth]
  | boolean b => simp [content, Doc.ofJson, kind, ofContent?, Doc.bool?, same, kept, depth]
  | integer i =>
    have lower := i.le_toInt
    have upper := i.toInt_lt
    have hr : (Doc.number (some (.integer i.toInt))).int64? = some i := by
      have hi : -9223372036854775808 ≤ i.toInt ∧ i.toInt < 9223372036854775808 := by omega
      simp [Doc.int64?, Doc.integer?, hi]
    rw [ofJson_content_integer, kind, ofContent?, hr]
    simp [same, kept, depth]
  | double d =>
    rw [kind, ofContent?]
    rcases ofJson_content_double d with ⟨e, he, hk⟩ | ⟨hn, hk⟩
    · rw [he, hk]
      simp [Doc.double?, same, depth]
    · rw [hn, hk]
      simp
  | json j =>
    have hv := Doc.value?_ofJson_iff j
    rw [kept, depth, kind, ofContent?, content, ← hv]
    constructor
    · rintro ⟨u, hu, hs⟩
      split at hu
      · next hsound =>
        obtain ⟨k, hk, rfl⟩ := Option.map_eq_some_iff.1 hu
        have hkept : ∃ k, (Doc.ofJson j).value? = some k ∧ k.same j = true := ⟨k, hk, hs⟩
        exact ⟨hkept, (Doc.sound_ofJson room j (hv.1 hkept)).1 hsound⟩
      · cases hu
    · rintro ⟨hkept, hd⟩
      rw [if_pos ((Doc.sound_ofJson room j (hv.1 hkept)).2 hd)]
      obtain ⟨k, hk, hs⟩ := hkept
      rw [hk]
      exact ⟨.json k, rfl, hs⟩

theorem sound_content {v : Value} (h : v.kept = true) (room : Nat) :
    (Doc.ofJson v.content).sound room = true ↔ v.depth ≤ room := by
  cases v with
  | text s => simp [content, Doc.ofJson, Doc.sound, depth]
  | boolean b => simp [content, Doc.ofJson, Doc.sound, depth]
  | integer i => simp [ofJson_content_integer, Doc.sound, depth]
  | double d =>
    rcases ofJson_content_double d with ⟨e, he, _⟩ | ⟨_, hk⟩
    · simp [he, Doc.sound, depth]
    · rw [h] at hk
      cases hk
  | json j => exact Doc.sound_ofJson room j h

theorem ofJson_encode (v : Value) : Doc.ofJson v.encode =
    .object [(some "type", .text (some v.kind.name)), (some "value", Doc.ofJson v.content)] := rfl

theorem sound_encode (v : Value) (room : Nat) : (Doc.ofJson v.encode).sound room = true ↔
    0 < room ∧ (Doc.ofJson v.content).sound (room - 1) = true := by
  simp [ofJson_encode, Doc.sound, Doc.soundMembers]

theorem decode?_encode (v : Value) (room : Nat) :
    decode? room (Doc.ofJson v.encode) = ofContent? (room - 1) (Doc.ofJson v.content) v.kind := by
  simp [ofJson_encode, decode?, Doc.fields?, Doc.members?, Dict.findEntry,
    Fields.required, Fields.find?, Doc.caseName?, Kind.ofName?_name]

end Value

namespace Bag

/-- All its values are kept, with room for them two levels down. -/
def Kept (room : Nat) (b : Bag) : Prop := ∀ e ∈ b.entries, e.2.kept = true ∧ e.2.depth + 2 ≤ room

instance (room : Nat) : DecidablePred (Kept room) := fun b =>
  inferInstanceAs (Decidable (∀ e ∈ b.entries, _))

theorem same_iff {b c : Bag} : b.same c = true ↔
    List.Forall₂ (fun e f => e.1 = f.1 ∧ e.2.same f.2 = true) b.entries c.entries := by
  rw [List.forall₂_iff_zip]
  simp [same, size, Dict.size, entries]

theorem sound_encode {b : Bag} {room : Nat} : (Doc.ofJson b.encode).sound room = true ↔
    0 < room ∧ ∀ e ∈ b.entries, (Doc.ofJson e.2.encode).sound (room - 1) = true := by
  have hm : ∀ l : List (String × Value),
      Doc.soundMembers (room - 1) (Doc.ofMembers (l.map fun e => (e.1, e.2.encode))) = true ↔
        ∀ e ∈ l, (Doc.ofJson e.2.encode).sound (room - 1) = true := by
    intro l
    induction l with
    | nil => simp [Doc.ofMembers, Doc.soundMembers]
    | cons e l ih => simp [Doc.ofMembers, Doc.soundMembers, ih]
  simp [encode, ofDict, Doc.ofJson, Doc.sound, hm, entries]

/-- A bag comes back as an equal bag just if it is kept. -/
theorem legible_iff_kept {b : Bag} {room : Nat} (h : 0 < room) : b.Legible room ↔ b.Kept room := by
  have hdict := Doc.dict?_ofDict_iff (Value.decode? (room - 1)) Value.encode
    (fun u v => u.same v = true) b.values
  rw [legible_iff]
  unfold decode?
  constructor
  · rintro ⟨c, hc, hs⟩ e he
    split at hc
    · next hsound =>
      obtain ⟨d, hd, rfl⟩ := Option.map_eq_some_iff.1 hc
      obtain ⟨u, hu, hsame⟩ := hdict.1 ⟨d, hd, same_iff.1 hs⟩ e he
      rw [Value.decode?_encode] at hu
      obtain ⟨hk, hdepth⟩ := Value.ofContent?_content_iff.1 ⟨u, hu, hsame⟩
      obtain ⟨hroom, _⟩ := (Value.sound_encode e.2 _).1 ((sound_encode.1 hsound).2 e he)
      exact ⟨hk, by omega⟩
    · cases hc
  · intro hk
    have hsound : (Doc.ofJson b.encode).sound room = true := by
      refine sound_encode.2 ⟨h, fun e he => ?_⟩
      obtain ⟨hkept, hdepth⟩ := hk e he
      exact (Value.sound_encode e.2 _).2 ⟨by omega, (Value.sound_content hkept _).2 (by omega)⟩
    have hvalues : ∀ e ∈ b.values.entries, ∃ u,
        Value.decode? (room - 1) (Doc.ofJson e.2.encode) = some u ∧ u.same e.2 = true := by
      intro e he
      obtain ⟨hkept, hdepth⟩ := hk e he
      rw [Value.decode?_encode]
      exact Value.ofContent?_content_iff.2 ⟨hkept, by omega⟩
    obtain ⟨d, hd, hs⟩ := hdict.2 hvalues
    refine ⟨⟨d, none⟩, ?_, same_iff.2 hs⟩
    rw [if_pos hsound]
    exact congrArg (Option.map _) hd

theorem kept_iff_read? {b : Bag} :
    b.Kept Doc.maxDepth ↔ ∃ c, read? b.encode.toText = some c ∧ c.same b = true := by
  rw [← legible_iff_kept (by decide), legible_iff, ← read?_eq]

end Bag

namespace Preferences

/-- The bags of channels stand two levels deeper than the user's own. -/
def Kept (p : Preferences) : Prop :=
  p.params.Kept Doc.maxDepth ∧ ∀ e ∈ p.channels.entries, e.2.params.Kept (Doc.maxDepth - 2)

instance : DecidablePred Kept := fun p =>
  inferInstanceAs (Decidable (p.params.Kept Doc.maxDepth ∧ ∀ e ∈ p.channels.entries, _))

theorem comes_back_iff [Objections] {p : Preferences} :
    (∃ q, (PreferencesRow.ofPreferences p).preferences p.user = .ok q ∧ q.Same p) ↔ p.Kept := by
  have hmax : 0 < Doc.maxDepth - 2 := by decide
  rw [PreferencesRow.preferences_ofPreferences_iff, Kept, Bag.legible_iff_kept (by decide)]
  exact and_congr_right fun _ => forall₂_congr fun e _ => Bag.legible_iff_kept hmax

end Preferences

end Herald
