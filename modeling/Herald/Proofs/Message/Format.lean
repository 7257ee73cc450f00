import Herald.Message
import Herald.Proofs.Text.Lines
import Herald.Proofs.Text.Trimming
/-!
What raw text is a message, which message it is, and what is found wrong with any other.
-/

set_option autoImplicit false

namespace Herald

namespace Message

open Text

def Gives (line s : List Char) : Prop :=
  ∃ name value, line = name ++ ':' :: value ∧ ':' ∉ name ∧
    trim name = "Subject".toList ∧ s = trim value

/-- What is wrong with a line as a header. -/
inductive Offends : List Char → Malformed → Prop where
  | noColon {line : List Char} (h : ':' ∉ line) : Offends line (.illegalLine (String.ofList line))
  | otherName {name value : List Char} (h : ':' ∉ name) (other : trim name ≠ "Subject".toList) :
      Offends (name ++ ':' :: value) (.unknownHeader (String.ofList (trim name)))

/-- The lines before the first blank one, and those after it. -/
inductive Parted : List (List Char) → List (List Char) → List (List Char) → Prop where
  | whole {h : List (List Char)} (filled : ∀ l ∈ h, allBlank l = false) : Parted h h []
  | cut {h r : List (List Char)} {l : List Char} (filled : ∀ l ∈ h, allBlank l = false)
      (blank : allBlank l = true) : Parted (h ++ l :: r) h r

variable {l s : List Char} {ls h r : List (List Char)} {e : Malformed} {o : Option (List Char)}

theorem readHeader_eq_ok : readHeader l = .ok s ↔ Gives l s := by
  constructor
  · intro h
    unfold readHeader at h
    split at h
    · cases h
    · next name value hcut =>
      split at h
      · next hname =>
        obtain ⟨hl, hmem⟩ := append_of_cut? hcut
        exact ⟨name, value, hl, hmem, hname, (Except.ok.inj h).symm⟩
      · cases h
  · rintro ⟨name, value, rfl, hmem, hname, rfl⟩
    simp only [readHeader, cut?_of_not_mem hmem]
    exact if_pos hname

theorem readHeader_eq_error : readHeader l = .error e ↔ Offends l e := by
  constructor
  · intro h
    unfold readHeader at h
    split at h
    · next hcut =>
      cases h
      exact .noColon (cut?_eq_none_iff.1 hcut)
    · next name value hcut =>
      split at h
      · cases h
      · next hname =>
        obtain ⟨rfl, hmem⟩ := append_of_cut? hcut
        cases h
        exact .otherName hmem hname
  · intro h
    cases h with
    | noColon hmem => simp only [readHeader, cut?_eq_none_iff.2 hmem]
    | otherName hmem hname =>
      simp only [readHeader, cut?_of_not_mem hmem]
      exact if_neg hname

theorem readHeaders_cons (l : List Char) (ls : List (List Char)) : readHeaders (l :: ls) =
    (readHeader l).bind fun s => (readHeaders ls).bind fun later => .ok (some (later.getD s)) := rfl

theorem readHeaders_cons_eq_ok : readHeaders (l :: ls) = .ok o ↔
    ∃ s later, readHeader l = .ok s ∧ readHeaders ls = .ok later ∧ some (later.getD s) = o := by
  rw [readHeaders_cons]
  cases readHeader l <;> cases readHeaders ls <;> simp [Except.bind]

theorem readHeaders_cons_eq_error : readHeaders (l :: ls) = .error e ↔
    readHeader l = .error e ∨ (∃ s, readHeader l = .ok s) ∧ readHeaders ls = .error e := by
  rw [readHeaders_cons]
  cases readHeader l <;> cases readHeaders ls <;> simp [Except.bind]

theorem readHeaders_eq_ok : readHeaders h = .ok o ↔
    (∀ l ∈ h, ∃ s, Gives l s) ∧ Option.Rel Gives h.getLast? o := by
  induction h generalizing o with
  | nil => cases o <;> simp [readHeaders]
  | cons l h ih =>
    simp only [readHeaders_cons_eq_ok, ih, readHeader_eq_ok, List.forall_mem_cons,
      List.getLast?_cons]
    constructor
    · rintro ⟨s, later, hs, ⟨hall, hlast⟩, rfl⟩
      refine ⟨⟨⟨s, hs⟩, hall⟩, .some ?_⟩
      generalize h.getLast? = last at hlast ⊢
      cases hlast with
      | none => exact hs
      | some hk => exact hk
    · rintro ⟨⟨⟨s, hs⟩, hall⟩, hlast⟩
      cases hl : h.getLast? with
      | none =>
        rw [hl] at hlast
        cases hlast with
        | some hk => exact ⟨_, none, hk, ⟨hall, .none⟩, rfl⟩
      | some k =>
        rw [hl] at hlast
        cases hlast with
        | some hk => exact ⟨s, some _, hs, ⟨hall, .some hk⟩, rfl⟩

/-- The first line that is no header tells the fault. -/
theorem readHeaders_eq_error : readHeaders h = .error e ↔
    ∃ before l later, h = before ++ l :: later ∧ (∀ k ∈ before, ∃ s, Gives k s) ∧ Offends l e := by
  induction h with
  | nil => simp [readHeaders]
  | cons l h ih =>
    rw [readHeaders_cons_eq_error, ih, readHeader_eq_error]
    simp only [readHeader_eq_ok]
    constructor
    · rintro (hl | ⟨hs, before, k, later, rfl, hbefore, hk⟩)
      · exact ⟨[], l, h, rfl, by simp, hl⟩
      · exact ⟨l :: before, k, later, rfl, List.forall_mem_cons.2 ⟨hs, hbefore⟩, hk⟩
    · rintro ⟨before, k, later, heq, hbefore, hk⟩
      cases before with
      | nil =>
        cases heq
        exact .inl hk
      | cons b before =>
        cases heq
        obtain ⟨hb, hbefore⟩ := List.forall_mem_cons.1 hbefore
        exact .inr ⟨hb, before, k, later, rfl, hbefore, hk⟩

theorem readHeaders_eq_none : readHeaders h = .ok none ↔ h = [] := by
  rw [readHeaders_eq_ok]
  constructor
  · rintro ⟨_, hlast⟩
    generalize hl : h.getLast? = last at hlast
    cases hlast
    exact List.getLast?_eq_none_iff.1 hl
  · rintro rfl
    exact ⟨by simp, .none⟩

theorem readHeaders_eq_some : readHeaders h = .ok (some s) ↔
    (∀ l ∈ h, ∃ s, Gives l s) ∧ ∃ l, h.getLast? = some l ∧ Gives l s := by
  rw [readHeaders_eq_ok]
  refine and_congr_right fun _ => ?_
  constructor
  · intro hlast
    generalize h.getLast? = last at hlast ⊢
    cases hlast with
    | some hl => exact ⟨_, rfl, hl⟩
  · rintro ⟨l, hl, hs⟩
    rw [hl]
    exact .some hs

theorem exists_readHeaders : (∃ s, readHeaders h = .ok (some s)) ↔
    h ≠ [] ∧ ∀ l ∈ h, ∃ s, Gives l s := by
  simp only [readHeaders_eq_some]
  constructor
  · rintro ⟨s, hall, l, hl, _⟩
    refine ⟨?_, hall⟩
    rintro rfl
    cases hl
  · rintro ⟨hne, hall⟩
    obtain ⟨s, hs⟩ := hall _ (List.getLast_mem hne)
    exact ⟨s, hall, _, List.getLast?_eq_some_getLast hne, hs⟩

theorem parted_lines (ls : List (List Char)) : Parted ls (headerLines ls) (bodyLines ls) := by
  induction ls with
  | nil => exact .whole (by simp)
  | cons l ls ih =>
    cases hl : allBlank l with
    | true =>
      simp only [headerLines, bodyLines, List.takeWhile_cons, List.dropWhile_cons,
        hl, Bool.not_true, Bool.false_eq_true, if_false, List.drop_one, List.tail_cons]
      exact .cut (h := []) (by simp) hl
    | false =>
      have hh : headerLines (l :: ls) = l :: headerLines ls := by simp [headerLines, hl]
      have hb : bodyLines (l :: ls) = bodyLines ls := by simp [bodyLines, hl]
      rw [hh, hb]
      generalize headerLines ls = h, bodyLines ls = r at ih
      cases ih with
      | whole filled => exact .whole (by simpa [hl] using filled)
      | cut filled blank => exact .cut (h := l :: _) (by simpa [hl] using filled) blank

theorem Parted.eq (h' : Parted ls h r) : h = headerLines ls ∧ r = bodyLines ls := by
  have pos {h : List (List Char)} (filled : ∀ l ∈ h, allBlank l = false) :
      ∀ l ∈ h, (!allBlank l) = true := fun l hl => by rw [filled l hl]; rfl
  cases h' with
  | whole filled =>
    rw [headerLines, bodyLines, List.takeWhile_eq_self_iff.2 (pos filled),
      List.dropWhile_eq_nil_iff.2 (pos filled)]
    exact ⟨rfl, rfl⟩
  | cut filled blank =>
    rw [headerLines, bodyLines, List.takeWhile_append_of_pos (pos filled),
      List.dropWhile_append_of_pos (pos filled)]
    simp [blank]

theorem parted_iff : Parted ls h r ↔ h = headerLines ls ∧ r = bodyLines ls :=
  ⟨Parted.eq, fun ⟨hh, hr⟩ => hh ▸ hr ▸ parted_lines ls⟩

theorem allBlank_of_dropWhile (h : r.dropWhile allBlank = l :: ls) : allBlank l = false := by
  have hl := List.head_dropWhile_not allBlank (l := r) (h ▸ List.cons_ne_nil l ls)
  simpa [h] using hl

theorem readBody_eq_nil_iff : readBody r = [] ↔ ∀ l ∈ r, allBlank l = true := by
  rw [readBody, trimEnd_eq_nil_iff]
  constructor
  · intro hb
    cases hr : r.dropWhile allBlank with
    | nil => exact List.dropWhile_eq_nil_iff.1 hr
    | cons k ls =>
      obtain ⟨c, hc, hblank⟩ := allBlank_eq_false_iff.1 (allBlank_of_dropWhile hr)
      rw [hr, allBlank, List.all_eq_true] at hb
      have := hb c (mem_unlines List.mem_cons_self hc)
      rw [hblank] at this
      cases this
  · intro hb
    rw [List.dropWhile_eq_nil_iff.2 hb]
    rfl

theorem ofLines_eq (ls : List (List Char)) (kind : MessageKind) : ofLines ls kind =
    (readHeaders (headerLines ls)).bind fun
      | none => .error .missingSubject
      | some s =>
        match readBody (bodyLines ls) with
        | [] => .error .emptyBody
        | b => .ok ⟨kind, String.ofList s, String.ofList b⟩ := rfl

theorem ofLines_eq_ok {kind : MessageKind} {m : Message} : ofLines ls kind = .ok m ↔
    ∃ s, readHeaders (headerLines ls) = .ok (some s) ∧ readBody (bodyLines ls) ≠ [] ∧
      m = ⟨kind, String.ofList s, String.ofList (readBody (bodyLines ls))⟩ := by
  rw [ofLines_eq]
  rcases readHeaders (headerLines ls) with e | _ | s
  · simp [Except.bind]
  · simp [Except.bind]
  · cases readBody (bodyLines ls) <;> simp [Except.bind, eq_comm]

theorem ofLines_eq_error {kind : MessageKind} : ofLines ls kind = .error e ↔
    readHeaders (headerLines ls) = .error e ∨
      readHeaders (headerLines ls) = .ok none ∧ e = .missingSubject ∨
      (∃ s, readHeaders (headerLines ls) = .ok (some s)) ∧ readBody (bodyLines ls) = [] ∧
      e = .emptyBody := by
  rw [ofLines_eq]
  rcases readHeaders (headerLines ls) with e | _ | s
  · simp [Except.bind]
  · simpa [Except.bind] using eq_comm
  · cases readBody (bodyLines ls) with
    | nil => simpa [Except.bind] using eq_comm
    | cons c b => simp [Except.bind]

/-- Raw text has one list of lines, the first blank one of which parts it in one way. It is a
message just if there is a header, every header line gives a subject, and not all of the rest is
blank; the last header counts, and the body begins with its first line that is not blank. Of what
else there is the first bad header line tells the fault; if there is none, the fault is that there
is no header, or no body. -/
theorem accepts_exactly (raw : String) (kind : MessageKind) :
    ∃ ls h r, (∀ ls', Lined raw.toList ls' ↔ ls' = ls) ∧
      (∀ h' r', Parted ls h' r' ↔ h' = h ∧ r' = r) ∧
      (∀ m, parse raw kind = .ok m ↔
        (∀ l ∈ h, ∃ s, Gives l s) ∧ (∃ l ∈ r, allBlank l = false) ∧
          ∃ l s, h.getLast? = some l ∧ Gives l s ∧
            m = ⟨kind, String.ofList s, String.ofList (trimEnd (unlines (r.dropWhile allBlank)))⟩) ∧
      ∀ e, parse raw kind = .error e ↔
        (∃ before l later, h = before ++ l :: later ∧
          (∀ k ∈ before, ∃ s, Gives k s) ∧ Offends l e) ∨
        h = [] ∧ e = .missingSubject ∨
        (h ≠ [] ∧ ∀ l ∈ h, ∃ s, Gives l s) ∧ (∀ l ∈ r, allBlank l = true) ∧ e = .emptyBody := by
  refine ⟨lines raw.toList, headerLines (lines raw.toList), bodyLines (lines raw.toList),
    fun _ => lined_iff, fun _ _ => parted_iff, fun m => ?_, fun e => ?_⟩
  · have filled : readBody (bodyLines (lines raw.toList)) ≠ [] ↔
        ∃ l ∈ bodyLines (lines raw.toList), allBlank l = false := by
      rw [Ne, readBody_eq_nil_iff]
      simp
    rw [parse, ofLines_eq_ok]
    simp only [readHeaders_eq_some, filled]
    constructor
    · rintro ⟨s, ⟨hall, l, hl, hs⟩, hbody, rfl⟩
      exact ⟨hall, hbody, l, s, hl, hs, rfl⟩
    · rintro ⟨hall, hbody, l, s, hl, hs, rfl⟩
      exact ⟨s, ⟨hall, l, hl, hs⟩, hbody, rfl⟩
  · rw [parse, ofLines_eq_error, readHeaders_eq_error, readHeaders_eq_none, exists_readHeaders,
      readBody_eq_nil_iff]

end Message

end Herald
