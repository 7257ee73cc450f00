import Herald.Template
import Herald.Proofs.Bag.Fidelity
import Herald.Proofs.Config.Settings
import Herald.Proofs.Text.Quoting
/-!
What can be told from a message: which error of rendering there was, since reports and records keep
only its text; which notification is meant; and which variable could not be read, what it said, and
why.
-/

set_option autoImplicit false

namespace Herald

section Headings

variable {a b x y : String}

theorem append_ne (h : a.toList.isPrefixOf b.toList = false) : a ++ x ≠ b := by
  rintro rfl
  rw [String.toList_append, List.isPrefixOf_iff_prefix.2 (List.prefix_append _ _)] at h
  cases h

theorem append_ne_append (hab : a.toList.isPrefixOf b.toList = false)
    (hba : b.toList.isPrefixOf a.toList = false) : a ++ x ≠ b ++ y := by
  intro h
  have hlists : a.toList ++ x.toList = b.toList ++ y.toList := by
    rw [← String.toList_append, h, String.toList_append]
  rw [← Bool.not_eq_true, List.isPrefixOf_iff_prefix] at hab hba
  rcases List.append_eq_append_iff.1 hlists with ⟨r, hb, -⟩ | ⟨r, ha, -⟩
  · exact hab ⟨r, hb.symm⟩
  · exact hba ⟨r, ha.symm⟩

theorem append_mark_inj {sep : Char} {cs : List Char} {mark : String}
    (hmark : mark.toList = sep :: cs) (ha : sep ∉ a.toList) (hb : sep ∉ b.toList)
    (h : a ++ (mark ++ x) = b ++ (mark ++ y)) : a = b ∧ x = y := by
  have hlists := congrArg String.toList h
  simp only [String.toList_append, hmark, List.cons_append] at hlists
  obtain ⟨hab, hxy⟩ := Text.append_cons_inj ha hb hlists
  exact ⟨String.toList_inj.1 hab, String.toList_inj.1 (List.append_cancel_left hxy)⟩

end Headings

theorem Malformed.eq_of_message_eq {e f : Malformed} (h : e.message = f.message) : e = f := by
  cases e <;> cases f
  case illegalLine.illegalLine => rw [(String.append_right_inj _).1 h]
  case unknownHeader.unknownHeader => rw [(String.append_right_inj _).1 h]
  all_goals first
    | rfl
    | exact absurd h (by decide)
    | exact absurd h (append_ne_append (by decide) (by decide))
    | exact absurd h (append_ne (by decide))
    | exact absurd h.symm (append_ne (by decide))

theorem RenderError.eq_of_message_eq {e f : RenderError} (h : e.message = f.message) : e = f := by
  cases e <;> cases f
  case templateNotFound.templateNotFound => rw [(String.append_right_inj _).1 h]
  case missingParam.missingParam => rw [(String.append_right_inj _).1 h]
  case malformed.malformed => rw [Malformed.eq_of_message_eq ((String.append_right_inj _).1 h)]
  case factory.factory => rw [(String.append_right_inj _).1 h]
  all_goals exact absurd h (append_ne_append (by decide) (by decide))

namespace Config

open Text

theorem Variable.message_unreadable (a p x : String) : (unreadable a p x).message =
    "Configuration error: " ++ (a ++ ("=" ++ (inQuotes p ++ (": " ++ x)))) := by
  simp only [← String.append_assoc]
  rfl

theorem Variable.inj_of_message_eq {a b p q x y : String} (ha : '=' ∉ a.toList)
    (hb : '=' ∉ b.toList) (h : (unreadable a p x).message = (unreadable b q y).message) :
    a = b ∧ p = q ∧ x = y := by
  rw [message_unreadable, message_unreadable, String.append_right_inj] at h
  have hmark : "=".toList = ['='] := by decide
  obtain ⟨rfl, hrest⟩ := append_mark_inj hmark ha hb h
  have hlists := congrArg String.toList hrest
  simp only [String.toList_append] at hlists
  obtain ⟨rfl, hreason⟩ := inQuotes_append_inj hlists
  exact ⟨rfl, rfl, String.toList_inj.1 (List.append_cancel_left hreason)⟩

/-- The message says of which setting the variable could not be read, what it said, and why. -/
theorem Setting.eq_of_message_eq {s t : Setting} {p q x y : String}
    (h : (Variable.unreadable s.variableName p x).message =
      (Variable.unreadable t.variableName q y).message) : s = t ∧ p = q ∧ x = y := by
  have plain (s : Setting) : '=' ∉ s.variableName.toList := by cases s <;> decide
  obtain ⟨hname, hrest⟩ := Variable.inj_of_message_eq (plain s) (plain t) h
  exact ⟨variableName_injective hname, hrest⟩

end Config

namespace Notification

open Json Text

theorem intText_inj {i j : Int} (h : intText i = intText j) : i = j := by
  have hread := readLiteral_writeInt i
  rw [String.ofList_inj.1 h, readLiteral_writeInt] at hread
  simp only [Option.some.injEq, Prod.mk.injEq, Literal.mk.injEq, decide_eq_decide,
    and_true] at hread
  have hdigits := congrArg (Nat.ofDigitChars 10 · 0) hread.2
  simp only [Nat.ofDigitChars_ten_toDigits] at hdigits
  omega

theorem comma_not_mem_intText (i : Int) : ',' ∉ (intText i).toList := by
  have digits (n : Nat) : ',' ∉ Nat.toDigits 10 n := fun h =>
    absurd (isDigit_toDigits h) (by decide)
  rw [intText, String.toList_ofList, writeInt]
  split
  · exact List.not_mem_cons_of_ne_of_not_mem (by decide) (digits _)
  · exact digits _

theorem intText_ne_dash (i : Int) : intText i ≠ "-" := by
  intro h
  have hread := readLiteral_writeInt i
  rw [show writeInt i = ['-'] from String.ofList_inj.1 h] at hread
  cases hread

theorem idText_inj {i j : Option Int}
    (h : (i.map intText).getD "-" = (j.map intText).getD "-") : i = j := by
  cases i <;> cases j
  · rfl
  · exact absurd h.symm (intText_ne_dash _)
  · exact absurd h (intText_ne_dash _)
  · exact congrArg some (intText_inj h)

theorem comma_not_mem_idText (i : Option Int) :
    ',' ∉ ((i.map intText).getD "-").toList := by
  cases i with
  | none => decide
  | some i => exact comma_not_mem_intText i

/-- What a notification is shown as tells which one it is. -/
theorem id_of_display_eq {m n : Notification} (h : m.display = n.display) : m.id = n.id := by
  have rest (n : Notification) : ∃ r, n.display =
      "Notification [id=" ++ ((n.id.map intText).getD "-" ++ (", user_id=" ++ r)) := by
    refine ⟨n.user ++ (", key=" ++ (n.templateKey ++ (", type=" ++ (Named.name n.audience ++
      (", created_at=" ++ (n.createdAt.toText ++ "]")))))), ?_⟩
    simp only [← String.append_assoc]
    rfl
  have hmark : ", user_id=".toList = ',' :: " user_id=".toList := by decide
  obtain ⟨r, hr⟩ := rest m
  obtain ⟨r', hr'⟩ := rest n
  rw [hr, hr', String.append_right_inj] at h
  exact idText_inj
    (append_mark_inj hmark (comma_not_mem_idText m.id) (comma_not_mem_idText n.id) h).1

end Notification

namespace Fault

theorem message_noNotification (i : Int) : (noNotification i).message =
    "Entity not found: " ++ "Notification" ++ " with id " ++ Notification.intText i := rfl

theorem eq_of_noNotification {i j : Int}
    (h : (noNotification i).message = (noNotification j).message) : i = j := by
  rw [message_noNotification, message_noNotification, String.append_right_inj] at h
  exact Notification.intText_inj h

theorem message_undeliverable (n : Notification) : (undelivered (.undeliverable n)).message =
    "Dispatch failed: " ++ (n.display ++ " is undeliverable") := rfl

theorem id_of_undeliverable {m n : Notification}
    (h : (undelivered (.undeliverable m)).message = (undelivered (.undeliverable n)).message) :
    m.id = n.id := by
  rw [message_undeliverable, message_undeliverable, String.append_right_inj,
    String.append_left_inj] at h
  exact Notification.id_of_display_eq h

end Fault

end Herald
