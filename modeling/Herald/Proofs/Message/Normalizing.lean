import Herald.Proofs.Message.Format
/-!
Parsing takes out of a text what carries no meaning, and takes it out once: the message it leaves,
written as a text again, is that message. Which end the lines have is among what it takes out.
-/

set_option autoImplicit false

namespace Herald.Message

open Text

structure Normal (m : Message) : Prop where
  oneLine : '\n' ∉ m.subject.toList
  trimmed : Text.trimmed m.subject = m.subject
  filled : m.body ≠ ""
  begins : allBlank (firstLine m.body.toList) = false
  ends : ∀ c ∈ m.body.toList.getLast?, isBlank c = false

def text (m : Message) : String := "Subject: " ++ m.subject ++ "\n\n" ++ m.body

variable {m : Message} {raw : String} {kind : MessageKind} {s b : List Char} {r : List (List Char)}

theorem begins_readBody (inner : ∀ l ∈ r, '\n' ∉ l) (filled : readBody r ≠ []) :
    allBlank (firstLine (readBody r)) = false := by
  cases hr : r.dropWhile allBlank with
  | nil => exact absurd (by rw [readBody, hr]; rfl) filled
  | cons k ls =>
    have hk : allBlank k = false := allBlank_of_dropWhile hr
    have hin : '\n' ∉ k := inner k
      ((List.dropWhile_sublist allBlank).subset (hr ▸ List.mem_cons_self))
    obtain ⟨t, ht⟩ := exists_unlines_cons k ls
    rw [readBody, hr, ht]
    -- What follows the first line is cut off as a whole if it is blank; else the cut is behind the
    -- line.
    cases hb : allBlank t with
    | true =>
      rw [trimEnd_append_of_blank hb,
        firstLine_of_inner fun h => hin ((trimEnd_isPrefix k).subset h), allBlank_trimEnd, hk]
    | false =>
      rw [trimEnd_append hb, firstLine_append hin, allBlank_append, hk, Bool.false_and]

theorem Gives.inner {l : List Char} (h : Gives l s) (hl : '\n' ∉ l) : '\n' ∉ s := by
  obtain ⟨name, value, rfl, -, -, rfl⟩ := h
  intro hs
  exact hl (List.mem_append_right _ (List.mem_cons_of_mem _ (mem_of_mem_trim hs)))

theorem Gives.trim_eq {l : List Char} (h : Gives l s) : trim s = s := by
  obtain ⟨-, value, -, -, -, rfl⟩ := h
  exact trim_trim value

theorem bodyLines_subset (ls : List (List Char)) : bodyLines ls ⊆ ls := fun _ h =>
  (List.dropWhile_sublist _).subset (List.mem_of_mem_drop h)

theorem headerLines_subset (ls : List (List Char)) : headerLines ls ⊆ ls := fun _ h =>
  (List.takeWhile_sublist _).subset h

theorem normal_of_parse (h : parse raw kind = .ok m) : m.Normal := by
  obtain ⟨s, hh, hb, rfl⟩ := ofLines_eq_ok.1 h
  obtain ⟨-, l, hl, hs⟩ := readHeaders_eq_some.1 hh
  have inner := (lined_lines raw.toList).inner
  have hl : l ∈ lines raw.toList := headerLines_subset _ (List.mem_of_getLast? hl)
  refine ⟨?_, ?_, ?_, ?_, ?_⟩
  · rw [String.toList_ofList]
    exact hs.inner (inner l hl)
  · rw [Text.trimmed, String.toList_ofList, hs.trim_eq]
  · rw [Ne, ← String.toList_eq_nil_iff, String.toList_ofList]
    exact hb
  · rw [String.toList_ofList]
    exact begins_readBody (fun k hk => inner k (bodyLines_subset _ hk)) hb
  · intro c hc
    rw [String.toList_ofList] at hc
    exact getLast?_trimEnd hc

theorem noReturn_of_parse (hr : '\r' ∉ raw.toList) (h : parse raw kind = .ok m) :
    '\r' ∉ m.body.toList := by
  obtain ⟨s, -, -, rfl⟩ := ofLines_eq_ok.1 h
  rw [String.toList_ofList]
  intro hb
  rcases eq_or_mem_of_mem_unlines ((trimEnd_isPrefix _).subset hb) with hc | ⟨l, hl, hc⟩
  · cases hc
  · exact hr ((lined_lines _).mem (bodyLines_subset _ ((List.dropWhile_sublist _).subset hl)) hc)

theorem readBody_lines (hr : '\r' ∉ b) (begins : allBlank (firstLine b) = false) :
    readBody (lines b) = trimEnd b := by
  have hb : b ≠ [] := by
    rintro rfl
    cases begins
  have hh := (lined_lines b).head?_eq hr hb
  have hd : (lines b).dropWhile allBlank = lines b := by
    cases hl : lines b with
    | nil => rfl
    | cons l ls =>
      rw [hl, List.head?_cons, Option.some.injEq] at hh
      rw [List.dropWhile_cons_of_neg (by rw [hh, begins]; decide)]
  rw [readBody, hd]
  rcases (lined_lines b).eq_unlines hr with hu | hu
  · exact (congrArg trimEnd hu).symm
  · exact ((congrArg trimEnd hu).trans (trimEnd_concat_of_blank (by decide) _)).symm

def rawText (s b : List Char) : List Char := ("Subject: ".toList ++ s) ++ '\n' :: ([] ++ '\n' :: b)

theorem text_eq (m : Message) :
    m.text = String.ofList (rawText m.subject.toList m.body.toList) := by
  have ht : m.text.toList = rawText m.subject.toList m.body.toList := by
    unfold rawText
    simp [text]
  rw [← ht, String.ofList_toList]

theorem lines_rawText (hs : '\n' ∉ s) (whole : s.getLast? ≠ some '\r') (b : List Char) :
    lines (rawText s b) = ("Subject: ".toList ++ s) :: [] :: lines b := by
  have inner : '\n' ∉ "Subject: ".toList ++ s := by
    rw [List.mem_append, not_or]
    exact ⟨by decide, hs⟩
  have whole : ("Subject: ".toList ++ s).getLast? ≠ some '\r' := by
    rw [List.getLast?_append]
    cases hl : s.getLast? with
    | none => decide
    | some c => simpa [hl] using whole
  unfold rawText
  rw [lines_feed inner whole, lines_feed List.not_mem_nil (by decide)]

theorem gives_rawText (s : List Char) : Gives ("Subject: ".toList ++ s) (trim s) := by
  refine ⟨"Subject".toList, ' ' :: s, by simp, by decide, by decide, ?_⟩
  rw [trim, trim, trimStart_cons_of_blank (by decide)]

/-- Its subject is trimmed at both ends, its body only behind. -/
theorem parse_rawText (hs : '\n' ∉ s) (whole : s.getLast? ≠ some '\r') (hr : '\r' ∉ b)
    (begins : allBlank (firstLine b) = false) (kind : MessageKind) :
    parse (String.ofList (rawText s b)) kind =
      .ok ⟨kind, String.ofList (trim s), String.ofList (trimEnd b)⟩ := by
  have filled : ∀ l ∈ ["Subject: ".toList ++ s], allBlank l = false := by
    intro l hl
    obtain rfl := List.mem_singleton.1 hl
    exact allBlank_eq_false_iff.2 ⟨'S', List.mem_append_left _ (by decide), by decide⟩
  obtain ⟨hh, hb⟩ := (Parted.cut (r := lines b) filled allBlank_nil).eq
  have hl : [("Subject: ".toList ++ s)] ++ [] :: lines b = lines (rawText s b) :=
    (lines_rawText hs whole b).symm
  rw [hl] at hh hb
  rw [parse, String.toList_ofList]
  refine ofLines_eq_ok.2 ⟨trim s, ?_, ?_, ?_⟩
  · rw [← hh, readHeaders_eq_some]
    exact ⟨by simpa using ⟨_, gives_rawText s⟩, _, rfl, gives_rawText s⟩
  · rw [← hb, readBody_lines hr begins, Ne, trimEnd_eq_nil_iff]
    intro hblank
    obtain ⟨t, ht⟩ := firstLine_isPrefix b
    rw [← ht, allBlank_append, begins, Bool.false_and] at hblank
    cases hblank
  · rw [← hb, readBody_lines hr begins]

theorem Normal.trim_eq (h : m.Normal) : trim m.subject.toList = m.subject.toList := by
  have ht := congrArg String.toList h.trimmed
  rwa [Text.trimmed, String.toList_ofList] at ht

theorem parse_text (h : m.Normal) (hr : '\r' ∉ m.body.toList) : parse m.text m.kind = .ok m := by
  have whole : m.subject.toList.getLast? ≠ some '\r' := by
    intro hl
    have hc := trimEnd_eq_self_iff.1 (trim_eq_self_iff.1 h.trim_eq).2 _ hl
    cases hc
  have hp := parse_rawText h.oneLine whole hr h.begins m.kind
  rwa [h.trim_eq, trimEnd_eq_self_iff.2 h.ends, ← text_eq, String.ofList_toList,
    String.ofList_toList] at hp

theorem parse_withReturns (hr : '\r' ∉ raw.toList) (kind : MessageKind) :
    parse (String.ofList (withReturns raw.toList)) kind = parse raw kind := by
  rw [parse, String.toList_ofList, lines_withReturns hr, parse]

/-- A text without carriage returns is parsed as the one with a carriage return before each line
feed. What is parsed out of it is a normal message, and so is the message of its own plainest form.
And every normal message whose body has no carriage returns is parsed out of a text, that form. -/
theorem parse_normalizes :
    (∀ raw kind, '\r' ∉ raw.toList →
      parse (String.ofList (withReturns raw.toList)) kind = parse raw kind) ∧
    (∀ raw kind m, parse raw kind = .ok m →
      m.Normal ∧ m.kind = kind ∧ ('\r' ∉ raw.toList → parse m.text m.kind = .ok m)) ∧
    ∀ m : Message, m.Normal → '\r' ∉ m.body.toList → parse m.text m.kind = .ok m := by
  refine ⟨fun raw kind hr => parse_withReturns hr kind, fun raw kind m h => ?_, fun m => parse_text⟩
  refine ⟨normal_of_parse h, ?_, fun hr => parse_text (normal_of_parse h) (noReturn_of_parse hr h)⟩
  obtain ⟨s, -, -, rfl⟩ := ofLines_eq_ok.1 h
  rfl

theorem parse_normalizes_of_two :
    (parse "Subject: a: b\r\nSubject:\r\n\r\n\r\n  x \r\n\r\ny \r\n" .html =
      parse "Subject: a: b\nSubject:\n\n\n  x \n\ny \n" .html) ∧
    (parse "Subject: \n\n  x \n\ny" .html = .ok ⟨.html, "", "  x \n\ny"⟩) ∧
    parse "Subject: a: b\n\n\tx" .text = .ok ⟨.text, "a: b", "\tx"⟩ := by
  have raw : parse "Subject: a: b\nSubject:\n\n\n  x \n\ny \n" .html =
      .ok ⟨.html, "", "  x \n\ny"⟩ := by
    decide +kernel
  have normal : Normal ⟨.text, "a: b", "\tx"⟩ := by
    refine ⟨by decide, by decide, by decide, by decide, fun c hc => ?_⟩
    obtain rfl : 'x' = c := by simpa using hc
    decide
  obtain ⟨hr, hp, ht⟩ := parse_normalizes
  refine ⟨?_, ?_, ?_⟩
  · exact hr "Subject: a: b\nSubject:\n\n\n  x \n\ny \n" .html (by decide)
  · exact (hp _ .html _ raw).2.2 (by decide)
  · exact ht ⟨.text, "a: b", "\tx"⟩ normal (by decide)

end Herald.Message
