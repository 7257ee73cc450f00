import Herald.Proofs.Bag.Fidelity
/-!
What is kept comes back as the very same value, the sign of a zero included. And what was read from
a document, written again, nests no deeper than the document did.
-/

set_option autoImplicit false

namespace Herald

namespace Dict

variable {α : Type}

theorem mem_of_mem_foldl {l : List (String × α)} {d : Dict α} {e : String × α}
    (h : e ∈ (l.foldl (fun d e => d.insert e.1 e.2) d).entries) : e ∈ d.entries ∨ e ∈ l := by
  induction l generalizing d with
  | nil => exact .inl h
  | cons a l ih =>
    rcases ih h with h | h
    · rcases mem_insertEntry h with rfl | h
      · exact .inr List.mem_cons_self
      · exact .inl h
    · exact .inr (List.mem_cons_of_mem _ h)

theorem mem_of_mem_ofList {l : List (String × α)} {e : String × α}
    (h : e ∈ (ofList l).entries) : e ∈ l :=
  (mem_of_mem_foldl (d := empty) h).resolve_left nofun

end Dict

theorem Decimal.sign_of_scaled? {negative : Bool} {d : Decimal} {x : Double}
    (h : scaled? negative d = some x) : ∃ r, x = .finite negative r := by
  obtain ⟨_, hx⟩ := Option.dite_none_right_eq_some.1 h
  exact ⟨_, (Option.some.inj hx).symm⟩

namespace Json

namespace Doc

theorem ofNumber_eq_of_kept {n : Number} (h : n.kept = true) : ofNumber n = .number (some n) := by
  obtain ⟨m, hm, hs⟩ := ofNumber_of_kept h
  cases n with
  | integer i =>
    obtain ⟨lower, upper⟩ := Number.kept_integer.1 h
    exact ofNumber_of_fits lower upper
  | double x =>
    cases x with
    | nan => exact absurd h (by decide)
    | infinite negative => cases negative <;> exact absurd h (by decide)
    | finite negative r =>
      obtain ⟨l, _, hl⟩ := Double.ofNumber_finite negative r
      rw [hm] at hl ⊢
      obtain ⟨y, hy, rfl⟩ := Option.map_eq_some_iff.1 (Doc.number.inj hl).symm
      obtain ⟨q, rfl⟩ := Decimal.sign_of_scaled? hy
      simp only [Number.same, Double.same, Bool.and_eq_true, beq_iff_eq] at hs
      rw [hs.1]

mutual

theorem value?_ofJson : ∀ j : Json, j.kept = true → (ofJson j).value? = some j
  | .null, _ | .bool _, _ | .text _, _ => rfl
  | .number n, h => by
    rw [kept] at h
    rw [ofJson, ofNumber_eq_of_kept h]
    rfl
  | .array items, h => by
    rw [kept] at h
    rw [ofJson, value?, values?_ofItems items h]
    rfl
  | .object members, h => by
    rw [kept, Bool.and_eq_true, decide_eq_true_eq] at h
    rw [ofJson, value?, entries?_ofMembers members h.2, Option.map_some, Dict.entries_ofList h.1]

theorem values?_ofItems : ∀ js : List Json, keptItems js = true → values? (ofItems js) = some js
  | [], _ => rfl
  | j :: js, h => by
    rw [keptItems, Bool.and_eq_true] at h
    rw [ofItems, values?, value?_ofJson j h.1, values?_ofItems js h.2]
    rfl

theorem entries?_ofMembers : ∀ ms : List (String × Json), keptMembers ms = true →
    entries? (ofMembers ms) = some ms
  | [], _ => rfl
  | (k, j) :: ms, h => by
    rw [keptMembers, Bool.and_eq_true] at h
    rw [ofMembers, entries?, value?_ofJson j h.1, entries?_ofMembers ms h.2]
    rfl

end

end Doc

theorem depthMembers_le_iff {ms : List (String × Json)} {n : Nat} :
    depthMembers ms ≤ n ↔ ∀ m ∈ ms, m.2.depth ≤ n := by
  induction ms with
  | nil => simp [depthMembers]
  | cons m ms ih =>
    rw [depthMembers, Nat.max_le, ih, List.forall_mem_cons]

theorem depth_object_le_iff {ms : List (String × Json)} {room : Nat} :
    (object ms).depth ≤ room ↔ 0 < room ∧ ∀ m ∈ ms, m.2.depth ≤ room - 1 := by
  rw [← depthMembers_le_iff, depth]
  omega

theorem depth_array_le_iff {js : List Json} {room : Nat} :
    (array js).depth ≤ room ↔ 0 < room ∧ ∀ j ∈ js, j.depth ≤ room - 1 := by
  have items : depthItems js ≤ room - 1 ↔ ∀ j ∈ js, j.depth ≤ room - 1 := by
    induction js with
    | nil => simp [depthItems]
    | cons j js ih => rw [depthItems, Nat.max_le, ih, List.forall_mem_cons]
  rw [← items, depth]
  omega

@[simp] theorem depth_text (s : String) : (text s).depth = 0 := rfl

@[simp] theorem depth_bool (b : Bool) : (bool b).depth = 0 := rfl

@[simp] theorem depth_ofNat (n : Nat) : (ofNat n).depth = 0 := rfl

@[simp] theorem depth_ofInt (i : Int) : (ofInt i).depth = 0 := rfl

@[simp] theorem depth_encode_named {α : Type} [Named α] (a : α) : (Named.encode a).depth = 0 := rfl

theorem depth_ofOption_le_iff {α : Type} {f : α → Json} {o : Option α} {room : Nat} :
    (ofOption f o).depth ≤ room ↔ ∀ a ∈ o, (f a).depth ≤ room := by
  cases o with
  | none => simp [ofOption, depth]
  | some a => simp [ofOption]

namespace Doc

mutual

theorem depth_of_value? : ∀ {d : Doc} {j : Json} {room : Nat}, d.value? = some j →
    d.sound room = true → j.depth ≤ room
  | .null, _, room, h, _ => by
    cases h
    exact Nat.zero_le room
  | .bool b, _, room, h, _ => by
    cases h
    exact Nat.zero_le room
  | .number n, _, room, h, _ => by
    obtain ⟨_, _, rfl⟩ := Option.map_eq_some_iff.1 h
    exact Nat.zero_le room
  | .text s, _, room, h, _ => by
    obtain ⟨_, _, rfl⟩ := Option.map_eq_some_iff.1 h
    exact Nat.zero_le room
  | .array ds, _, room, h, hs => by
    obtain ⟨js, hjs, rfl⟩ := Option.map_eq_some_iff.1 h
    simp only [sound, Bool.and_eq_true, decide_eq_true_eq] at hs
    have hi := depth_of_values? hjs hs.2
    rw [depth]
    omega
  | .object ms, _, room, h, hs => by
    obtain ⟨es, hes, rfl⟩ := Option.map_eq_some_iff.1 h
    simp only [sound, Bool.and_eq_true, decide_eq_true_eq] at hs
    exact depth_object_le_iff.2 ⟨hs.1,
      fun e he => depth_of_entries? hes hs.2 e (Dict.mem_of_mem_ofList he)⟩

theorem depth_of_values? : ∀ {ds : List Doc} {js : List Json} {room : Nat}, values? ds = some js →
    soundItems room ds = true → depthItems js ≤ room
  | [], _, room, h, _ => by
    cases h
    exact Nat.zero_le room
  | d :: ds, _, room, h, hs => by
    simp only [values?, Option.bind_eq_bind, Option.bind_eq_some_iff, Option.pure_def,
      Option.some.injEq] at h
    obtain ⟨j, hj, js, hjs, rfl⟩ := h
    rw [soundItems, Bool.and_eq_true] at hs
    exact Nat.max_le.2 ⟨depth_of_value? hj hs.1, depth_of_values? hjs hs.2⟩

theorem depth_of_entries? : ∀ {ds : List (Option String × Doc)}
    {es : List (String × Json)} {room : Nat},
    entries? ds = some es → soundMembers room ds = true → ∀ e ∈ es, e.2.depth ≤ room
  | [], _, room, h, _ => by
    cases h
    nofun
  | (k, d) :: ds, _, room, h, hs => by
    simp only [entries?, Option.bind_eq_bind, Option.bind_eq_some_iff, Option.pure_def,
      Option.some.injEq] at h
    obtain ⟨_, _, j, hj, es, hes, rfl⟩ := h
    simp only [soundMembers, Bool.and_eq_true] at hs
    exact List.forall_mem_cons.2 ⟨depth_of_value? hj hs.1.2, depth_of_entries? hes hs.2⟩

end

theorem sound_of_mem {ms : List (Option String × Doc)} {m : Option String × Doc} {room : Nat}
    (h : soundMembers room ms = true) (hm : m ∈ ms) : m.2.sound room = true := by
  induction ms with
  | nil => cases hm
  | cons a ms ih =>
    simp only [soundMembers, Bool.and_eq_true] at h
    rcases List.mem_cons.1 hm with rfl | hm
    · exact h.1.2
    · exact ih h.2 hm

theorem mem_of_readEntries? {α : Type} {read : Doc → Option α} {ms : List (Option String × Doc)}
    {l : List (String × α)} (h : readEntries? read ms = some l) {e : String × α} (he : e ∈ l) :
    ∃ d, (some e.1, d) ∈ ms ∧ read d = some e.2 := by
  induction ms generalizing l with
  | nil =>
    cases h
    cases he
  | cons m ms ih =>
    obtain ⟨k, d⟩ := m
    simp only [readEntries?, Option.bind_eq_bind, Option.bind_eq_some_iff, Option.pure_def,
      Option.some.injEq] at h
    obtain ⟨k, rfl, a, ha, l', hl, rfl⟩ := h
    rcases List.mem_cons.1 he with rfl | he
    · exact ⟨d, List.mem_cons_self, ha⟩
    · obtain ⟨d', hd, hr⟩ := ih hl he
      exact ⟨d', List.mem_cons_of_mem _ hd, hr⟩

theorem of_dict? {α : Type} {read : Doc → Option α} {d : Doc} {t : Dict α}
    (h : d.dict? read = some t) :
    ∃ ms, d = .object ms ∧ ∀ e ∈ t.entries, ∃ x, (some e.1, x) ∈ ms ∧ read x = some e.2 := by
  cases d with
  | object ms =>
    obtain ⟨l, hl, rfl⟩ := Option.map_eq_some_iff.1 h
    exact ⟨ms, rfl, fun e he => mem_of_readEntries? hl (Dict.mem_of_mem_ofList he)⟩
  | _ => cases h

end Doc

end Json

open Json

namespace Value

theorem depth_content (v : Value) : v.content.depth = v.depth := by
  cases v with
  | double d =>
    rw [content]
    split <;> rfl
  | _ => rfl

theorem depth_encode (v : Value) : v.encode.depth = v.depth + 1 := by
  simp [encode, Json.depth, depthMembers, depth_content]

theorem ofContent?_content {v : Value} {room : Nat} (hk : v.kept = true) (hd : v.depth ≤ room) :
    ofContent? room (Doc.ofJson v.content) v.kind = some v := by
  cases v with
  | text s | boolean b => rfl
  | integer i =>
    obtain ⟨u, hu, hs⟩ := ofContent?_content_iff.2 ⟨hk, hd⟩
    cases u with
    | integer a =>
      rw [hu]
      exact congrArg _ (congrArg _ (eq_of_beq hs))
    | _ => cases hs
  | double d =>
    cases d with
    | nan => exact absurd hk (by decide)
    | infinite negative => cases negative <;> exact absurd hk (by decide)
    | finite negative r =>
      have hc : Doc.ofJson (content (.double (.finite negative r))) =
          .number (some (.double (.finite negative r))) := Doc.ofNumber_eq_of_kept hk
      rw [hc]
      rfl
  | json j =>
    rw [kept] at hk
    rw [content, kind, ofContent?, if_pos ((Doc.sound_ofJson room j hk).2 hd),
      Doc.value?_ofJson j hk]
    rfl

theorem decode?_encode_of_kept {v : Value} {room : Nat} (hk : v.kept = true) (hd : v.depth < room) :
    decode? room (Doc.ofJson v.encode) = some v := by
  rw [decode?_encode, ofContent?_content hk (by omega)]

theorem depth_of_ofContent? {d : Doc} {k : Kind} {v : Value} {room : Nat}
    (h : ofContent? room d k = some v) : v.depth ≤ room := by
  cases k with
  | json =>
    rw [ofContent?] at h
    split at h
    · next hs =>
      obtain ⟨j, hj, rfl⟩ := Option.map_eq_some_iff.1 h
      exact Doc.depth_of_value? hj hs
    · cases h
  | _ =>
    obtain ⟨_, _, rfl⟩ := Option.map_eq_some_iff.1 h
    exact Nat.zero_le room

theorem depth_of_decode? {d : Doc} {v : Value} {room : Nat} (hs : d.sound room = true)
    (h : decode? room d = some v) : v.depth < room := by
  simp only [decode?, Option.bind_eq_bind, Option.bind_eq_some_iff, Fields.required] at h
  obtain ⟨f, hf, k, _, c, _, hc⟩ := h
  have hroom : 0 < room := by
    cases d with
    | array ds | object ms =>
      simp only [Doc.sound, Bool.and_eq_true, decide_eq_true_eq] at hs
      exact hs.1
    | _ => cases hf
  have hv := depth_of_ofContent? hc
  omega

end Value

namespace Bag

/-- The bag as its document gives it: it remembers no defaults. -/
def bare (b : Bag) : Bag := ⟨b.values, none⟩

theorem depth_encode_le_iff {b : Bag} {room : Nat} :
    b.encode.depth ≤ room ↔ 0 < room ∧ ∀ e ∈ b.entries, e.2.depth + 2 ≤ room := by
  rw [encode, ofDict, depth_object_le_iff, List.forall_mem_map]
  refine and_congr_right fun hroom => forall₂_congr fun e _ => ?_
  rw [Value.depth_encode]
  omega

/-- Each of its values is kept. -/
def Faithful (b : Bag) : Prop := ∀ e ∈ b.entries, e.2.kept = true

instance : DecidablePred Faithful := fun b => inferInstanceAs (Decidable (∀ e ∈ b.entries, _))

theorem decode?_encode {b : Bag} {room : Nat} (hk : b.Faithful)
    (hd : b.encode.depth ≤ room) : decode? room (Doc.ofJson b.encode) = some b.bare := by
  obtain ⟨hroom, hdepth⟩ := depth_encode_le_iff.1 hd
  have hsound : (Doc.ofJson b.encode).sound room = true := by
    refine sound_encode.2 ⟨hroom, fun e he => ?_⟩
    have := hdepth e he
    exact (Value.sound_encode e.2 _).2 ⟨by omega, (Value.sound_content (hk e he) _).2 (by omega)⟩
  obtain ⟨d, hd, hs⟩ :=
    (Doc.dict?_ofDict_iff (Value.decode? (room - 1)) Value.encode Eq b.values).2 fun e he =>
    ⟨e.2, Value.decode?_encode_of_kept (hk e he) (by have := hdepth e he; omega), rfl⟩
  have hv : d = b.values := Dict.ext (List.forall₂_eq_eq_eq ▸ hs.imp fun _ _ h => Prod.ext h.1 h.2)
  rw [decode?, if_pos hsound]
  exact (congrArg _ hd).trans (by rw [hv]; rfl)

theorem bare_of_decode? {d : Doc} {b : Bag} {room : Nat} (h : decode? room d = some b) :
    b.bare = b := by
  unfold decode? at h
  split at h
  · obtain ⟨t, _, rfl⟩ := Option.map_eq_some_iff.1 h
    rfl
  · cases h

theorem depth_of_decode? {d : Doc} {b : Bag} {room : Nat} (h : decode? room d = some b) :
    b.encode.depth ≤ room := by
  have hs := sound_of_decode? h
  rw [decode?, if_pos hs] at h
  obtain ⟨t, ht, rfl⟩ := Option.map_eq_some_iff.1 h
  obtain ⟨ms, rfl, hms⟩ := Doc.of_dict? ht
  simp only [Doc.sound, Bool.and_eq_true, decide_eq_true_eq] at hs
  refine depth_encode_le_iff.2 ⟨hs.1, fun e he => ?_⟩
  obtain ⟨x, hx, hr⟩ := hms e he
  have hv := Value.depth_of_decode? (Doc.sound_of_mem hs.2 hx) hr
  omega

end Bag

end Herald
