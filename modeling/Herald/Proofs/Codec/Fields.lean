import Herald.Config
import Herald.Channel.Webhook
import Herald.Message.Codec
import Herald.Notification.Codec
import Herald.Proofs.Bag.Fidelity
import Herald.Proofs.Time.Timestamps
/-!
Records as documents: what is written of a record holds each of its fields once, and each field
that is no bag is read as what was written.
-/

set_option autoImplicit false

namespace Herald

open Json

namespace Json

theorem Doc.members?_ofMembers {names : List String} {ms : List (String × Json)}
    (hn : ∀ m ∈ ms, m.1 ∈ names) (hd : (ms.map (·.1)).Nodup) :
    members? names (ofMembers ms) = some (ms.map fun m => (m.1, ofJson m.2)) := by
  induction ms with
  | nil => rfl
  | cons m ms ih =>
    obtain ⟨k, j⟩ := m
    rw [List.map_cons, List.nodup_cons] at hd
    obtain ⟨hk, hn⟩ := List.forall_mem_cons.1 hn
    have hfree : Dict.findEntry k (ms.map fun m => (m.1, ofJson m.2)) = none := by
      cases hf : Dict.findEntry k (ms.map fun m => (m.1, ofJson m.2)) with
      | none => rfl
      | some d =>
        obtain ⟨m, hm, he⟩ := List.mem_map.1 (Dict.mem_of_findEntry hf)
        have hkey : m.1 = k := congrArg Prod.fst he
        exact absurd (List.mem_map.2 ⟨m, hm, hkey⟩) hd.1
    simp [ofMembers, members?, ih hn hd.2, hk, hfree]

theorem Doc.fields?_ofJson {names : List String} {ms : List (String × Json)}
    (hn : ms.map (·.1) = names) (hd : names.Nodup) :
    (ofJson (.object ms)).fields? names = some ⟨false, ms.map fun m => (m.1, ofJson m.2)⟩ := by
  subst hn
  rw [ofJson, fields?, members?_ofMembers (fun m hm => List.mem_map_of_mem hm) hd]
  rfl

end Json

section Optional

variable {α : Type} {read : Doc → Option α} {write : α → Json} {o : Option α}

theorem orNull?_ofOption (hw : ∀ a ∈ o, Doc.ofJson (write a) ≠ .null ∧
    read (Doc.ofJson (write a)) = some a) :
    orNull? read (Doc.ofJson (.ofOption write o)) = some o := by
  cases o with
  | none => rfl
  | some a =>
    obtain ⟨hn, hr⟩ := hw a rfl
    show orNull? read (Doc.ofJson (write a)) = _
    unfold orNull?
    split
    · next h => exact absurd h hn
    · rw [hr]
      rfl

theorem Json.Fields.withDefault_eq (f : Fields) (name : String) (default : α) :
    f.withDefault name read default = (f.find? name).elim (some default) read := by
  unfold withDefault
  cases f.find? name <;> rfl

theorem Json.Fields.of_withDefault {f : Fields} {name : String} {default a : α}
    (h : f.withDefault name read default = some a) : a = default ∨ ∃ d, read d = some a := by
  rw [withDefault_eq] at h
  cases hf : f.find? name with
  | none =>
    rw [hf] at h
    exact .inl (Option.some.inj h).symm
  | some d =>
    rw [hf] at h
    exact .inr ⟨d, h⟩

theorem Json.Fields.of_nullable {f : Fields} {name : String} (h : f.nullable name read = some o) :
    ∀ a ∈ o, ∃ d, read d = some a := by
  rintro a rfl
  unfold nullable at h
  split at h
  · split at h <;> cases h
  · cases h
  · obtain ⟨b, hb, hba⟩ := Option.map_eq_some_iff.1 h
    cases hba
    exact ⟨_, hb⟩

theorem Json.Fields.nullable_eq {f : Fields} {name : String} {d : Doc}
    (hf : f.find? name = some d) : f.nullable name read = orNull? read d := by
  unfold nullable
  rw [hf]
  cases d <;> rfl

end Optional

namespace Json.Doc

@[simp] theorem text?_ofJson (s : String) : (ofJson (.text s)).text? = some s := rfl

@[simp] theorem bool?_ofJson (b : Bool) : (ofJson (.bool b)).bool? = some b := rfl

theorem integer?_ofJson {lo hi i : Int} (h : lo ≤ i ∧ i < hi) (lower : -int64Limit ≤ lo)
    (upper : hi ≤ UInt64.size) : (ofJson (.ofInt i)).integer? lo hi = some i := by
  have hn : ofJson (.ofInt i) = .number (some (.integer i)) :=
    ofNumber_of_fits (Int.le_trans lower h.1) (Int.lt_of_lt_of_le h.2 upper)
  simp [hn, integer?, h]

theorem of_integer? {d : Doc} {lo hi i : Int} (h : d.integer? lo hi = some i) :
    lo ≤ i ∧ i < hi := by
  unfold integer? at h
  split at h
  · split at h
    · next hi =>
      cases h
      simpa using hi
    · cases h
  · cases h

@[simp] theorem uint64?_ofJson (n : UInt64) : (ofJson (.ofNat n.toNat)).uint64? = some n := by
  have hn : (n.toNat : Int) < UInt64.size := by exact_mod_cast n.toNat_lt
  have hi : (ofJson (.ofNat n.toNat)).integer? 0 UInt64.size = some (n.toNat : Int) :=
    integer?_ofJson ⟨by omega, hn⟩ (by decide) (by decide)
  rw [uint64?, hi]
  simp

@[simp] theorem uint32?_ofJson (n : UInt32) : (ofJson (.ofNat n.toNat)).uint32? = some n := by
  have hn : (n.toNat : Int) < UInt32.size := by exact_mod_cast n.toNat_lt
  have hi : (ofJson (.ofNat n.toNat)).integer? 0 UInt32.size = some (n.toNat : Int) :=
    integer?_ofJson ⟨by omega, hn⟩ (by decide) (by decide)
  rw [uint32?, hi]
  simp

theorem list?_ofJson {α : Type} {read : Doc → Option α} {write : α → Json}
    (hw : ∀ a, read (ofJson (write a)) = some a) (l : List α) :
    (ofJson (.array (l.map write))).list? read = some l := by
  have general : readAll? read (ofItems (l.map write)) = some l := by
    induction l with
    | nil => rfl
    | cons a l ih => simp [ofItems, readAll?, hw, ih]
  exact general

end Json.Doc

@[simp] theorem Named.decode?_encode {α : Type} [Named α] (loose : Bool) (a : α) :
    decode? loose (Doc.ofJson (encode a)) = some a :=
  ofName?_name a

@[simp] theorem Instant.decode?_encode (t : Instant) : decode? (Doc.ofJson t.encode) = some t := by
  rw [decode?, encode, Doc.text?_ofJson, Option.bind_some, read?_toZulu]

@[simp] theorem Instant.depth_encode (t : Instant) : t.encode.depth = 0 := rfl

end Herald
