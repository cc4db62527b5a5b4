import Rulebook.Field.Test
import Rulebook.Proofs.Text.Emails
import Rulebook.Proofs.Text.Uuids

/-!
# Formats of strings

The tests of email addresses and of UUIDs accept what the formats say, which is what the patterns of
these formats match.

* `formats_accept_grammars`: both formats.
-/

namespace Rulebook.Test

theorem email_holds_iff {v : Option Json} :
    Test.email.holds v = true ↔ ∃ s, v = some (.string s) ∧ Email.Address s.toList := by
  cases v with
  | none => simp [holds]
  | some v => cases v <;> simp [holds, holdsOf, Email.isAddress_iff]

theorem uuid_holds_iff {v : Option Json} :
    Test.uuid.holds v = true ↔ ∃ s, v = some (.string s) ∧ Uuid.Version4 s.toList := by
  cases v with
  | none => simp [holds]
  | some v => cases v <;> simp [holds, holdsOf, Uuid.isUuid_iff]

/-- **Email addresses and UUIDs.** A value is an email address if and only if it is a string with
one `@`, a mailbox before it, and two labels or more behind it with dots in between. It is a UUID of
version 4 if and only if it is a string of 36 characters that has hyphens, the version and the
variant at their offsets and hexadecimal digits anywhere else. Either is what the pattern of the
format says, read and matched as any other pattern. A line end behind such a text is not allowed. -/
theorem formats_accept_grammars :
    (∀ v, Test.email.holds v = true ↔ ∃ s, v = some (.string s) ∧ Email.Address s.toList) ∧
    (∀ v, Test.uuid.holds v = true ↔ ∃ s, v = some (.string s) ∧ Uuid.Version4 s.toList) ∧
    (∃ p, Pattern.ofString Email.source = .ok p ∧
      ∀ s, p.isMatch s = true ↔ Email.Address s.toList) ∧
    (∃ p, Pattern.ofString Uuid.source = .ok p ∧
      ∀ s, p.isMatch s = true ↔ Uuid.Version4 s.toList) ∧
    ∀ s, Test.email.holds (some (.string (s ++ "\n"))) = false ∧
      Test.uuid.holds (some (.string (s ++ "\n"))) = false := by
  refine ⟨fun v => email_holds_iff, fun v => uuid_holds_iff,
    ⟨_, Email.ofString_source, fun s => ?_⟩, ⟨_, Uuid.ofString_source, fun s => ?_⟩,
    fun s => ⟨?_, ?_⟩⟩
  · rw [Pattern.isMatch_of_anchored Email.haveNoEdge_addressParts, Email.denotes_addressParts]
  · rw [Pattern.isMatch_of_anchored Uuid.haveNoEdge_uuidParts, Uuid.denotes_uuidParts,
      Uuid.isUuid_iff]
  · rw [Bool.eq_false_iff]
    intro h
    exact Email.newline_not_mem (Email.isAddress_iff.mp h) (by simp)
  · rw [Bool.eq_false_iff]
    intro h
    exact Uuid.newline_not_mem h (by simp)

end Rulebook.Test
