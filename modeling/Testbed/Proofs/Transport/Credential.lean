import Testbed.Proofs.Json.Prefix
import Testbed.Transport

/-!
# Handing over the credential

The first text on a connection is a JSON text for an object whose only member is the credential,
whatever characters the credential has. It spells no other value, none of its beginnings is a text,
and the credential can be told from it.
-/

namespace Testbed

open Json (IsText isGap_nil isString_quote quote)

def credentialTree (token : String) : Json := .object [(some "token", .string (some token))] true

section Texts

variable {token token' : String} {j : Json} {before after : List Char}

theorem toList_authText (token : String) : (authText token).toList =
    '\x7b' :: (quote "token" ++ ':' :: (quote token ++ ['\x7d'])) := by
  simp [authText, Json.Datum.text, Json.Datum.chars, Json.charsMembers]

theorem isText_authText (token : String) :
    IsText (credentialTree token) (authText token).toList := by
  have hvalue : IsText (.string (some token)) (quote token) := .string (isString_quote token)
  have hmember := Json.AreMembers.last isGap_nil (isString_quote "token") isGap_nil hvalue
  rw [toList_authText]
  simpa [credentialTree] using IsText.object hmember

theorem isText_authText_iff : IsText j (authText token).toList ↔ j = credentialTree token := by
  constructor
  · intro h
    have hread := Json.ofText_eq h
    rw [Json.ofText_eq (isText_authText token)] at hread
    exact (Prod.mk.inj hread).1.symm
  · rintro rfl
    exact isText_authText token

theorem authText_eq_iff : authText token' = authText token ↔ token' = token := by
  constructor
  · intro h
    have hsame : credentialTree token' = credentialTree token := by
      rw [← isText_authText_iff, ← h]
      exact isText_authText token'
    simpa [credentialTree] using hsame
  · rintro rfl
    rfl

/-- The text does not end before its last bracket. -/
theorem eq_nil_of_prefix (hsplit : before ++ after = (authText token).toList)
    (h : IsText j before) : after = [] := by
  have hlast : (before ++ after).getLast? = some '\x7d' := by
    rw [hsplit, toList_authText]
    simp [List.getLast?_cons, List.getLast?_append]
  obtain ⟨c, b, rfl⟩ := List.exists_cons_of_ne_nil (Json.ne_nil_of_isText h)
  have hwhole := isText_authText token
  rw [← hsplit] at hwhole
  obtain rfl : c = '\x7b' := by
    rw [toList_authText] at hsplit
    exact (List.cons.inj hsplit).1
  obtain ⟨-, hgap⟩ := Json.eq_and_isGap_of_prefix h hwhole
  by_contra hne
  rw [List.getLast?_append, List.getLast?_eq_some_getLast hne, Option.some_or] at hlast
  have hspace := hgap _ (Option.some.inj hlast ▸ List.getLast_mem hne)
  exact absurd hspace (by decide)

end Texts

/-- The text for a credential spells one object, with the credential as the value of its only
member, and is read as this object with nothing behind it. No beginning of the text is a text, and
no other credential has the same text. -/
theorem credential_is_sealed (token : String) :
    (∀ j, IsText j (authText token).toList ↔ j = credentialTree token) ∧
    Json.ofText (authText token) = (credentialTree token, true) ∧
    (∀ (before after : List Char) (j : Json), before ++ after = (authText token).toList →
      IsText j before → after = []) ∧
    ∀ token', authText token' = authText token ↔ token' = token :=
  ⟨fun _ => isText_authText_iff, Json.ofText_eq (isText_authText token),
    fun _ _ _ => eq_nil_of_prefix, fun _ => authText_eq_iff⟩

/-- A credential that tries to close the object does not close it. -/
theorem credential_is_sealed_closing :
    Json.ofText (authText "\"\x7d") = (credentialTree "\"\x7d", true) ∧
    (authText "\"\x7d").toList ++ [] = (authText "\"\x7d").toList ∧
    IsText (credentialTree "\"\x7d") (authText "\"\x7d").toList ∧ ([] : List Char) = [] := by
  obtain ⟨htext, hread, hbefore, -⟩ := credential_is_sealed "\"\x7d"
  have hwhole := (htext _).mpr rfl
  exact ⟨hread, List.append_nil _, hwhole, hbefore _ _ _ (List.append_nil _) hwhole⟩

end Testbed
