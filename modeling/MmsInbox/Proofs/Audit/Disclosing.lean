import MmsInbox.Proofs.Receive.Redacting

namespace MmsInbox

/-!
# What redaction discloses of e-mail addresses

Redaction leaves of an address what follows its first `@`. This is the domain unless the local part has an
`@` of its own, as a quoted local part may have: then the rest of the local part is disclosed as well
(`redact_discloses`, `not_forall_domain_only`).
-/

/-- An e-mail address. -/
def emailAddress (localPart domain : String) : String :=
  localPart ++ "@" ++ domain

theorem toList_emailAddress (localPart domain : String) :
    (emailAddress localPart domain).toList = localPart.toList ++ '@' :: domain.toList := by
  simp [emailAddress]

/-- Whatever follows the first `@` is left. -/
theorem redact_emailAddress
    {hidden : String}
    (first : '@' ∉ hidden.toList)
    (shown : String) :
    redact (emailAddress hidden shown) = emailAddress redactionMark shown := by
  rw [redact_of_domain (toList_emailAddress hidden shown) first, String.ofList_toList]
  rfl

/-- Addresses with the same in front of an `@` differ in what follows it. -/
theorem emailAddress_inj
    {localPart domain other : String} :
    emailAddress localPart domain = emailAddress localPart other ↔ domain = other := by
  rw [← String.toList_inj, toList_emailAddress, toList_emailAddress, List.append_cancel_left_eq,
    List.cons.injEq, String.toList_inj]
  exact and_iff_right rfl

/-- A local part with an `@` has a first one. -/
theorem exists_emailAddress_of_mem
    {localPart : String}
    (separated : '@' ∈ localPart.toList) :
    ∃ hidden shown, localPart = emailAddress hidden shown ∧ '@' ∉ hidden.toList := by
  obtain ⟨before, after, shape, first⟩ := List.eq_append_cons_of_mem separated
  refine ⟨String.ofList before, String.ofList after, ?_, by rwa [String.toList_ofList]⟩
  rw [← String.toList_inj, toList_emailAddress, String.toList_ofList, String.toList_ofList, shape]

/-- An address may be split at either `@`. -/
theorem emailAddress_assoc (hidden shown domain : String) :
    emailAddress (emailAddress hidden shown) domain =
      emailAddress hidden (emailAddress shown domain) := by
  simp only [emailAddress, String.append_assoc]

/-- A domain is shorter than what else ends in it after an `@`. -/
theorem emailAddress_ne (shown domain : String) : emailAddress shown domain ≠ domain := by
  intro same
  have lengths := congrArg (fun text => text.toList.length) same
  simp only [toList_emailAddress, List.length_append, List.length_cons] at lengths
  omega

/-- What redaction leaves of addresses with the same domain. -/
structure Discloses (localPart otherPart domain : String) : Prop where
  /-- The domain is all that is left exactly if the local part has no `@` of its own. -/
  domain_iff :
    redact (emailAddress localPart domain) = emailAddress redactionMark domain ↔
      '@' ∉ localPart.toList
  /-- Otherwise the local part is left as well from its first `@` on. -/
  leaves :
    ∀ hidden shown, localPart = emailAddress hidden shown → '@' ∉ hidden.toList →
      redact (emailAddress localPart domain) =
        emailAddress redactionMark (emailAddress shown domain)
  /-- An address without a second `@` is redacted as another one for the same domain exactly if that one has
  no second `@` either. -/
  alike_iff :
    '@' ∉ localPart.toList →
      (redact (emailAddress localPart domain) = redact (emailAddress otherPart domain) ↔
        '@' ∉ otherPart.toList)

/-- Redaction discloses nothing but the domain exactly if the local part has no `@` of its own. -/
theorem redact_discloses (localPart otherPart domain : String) :
    Discloses localPart otherPart domain := by
  have domain_iff (localPart : String) :
      redact (emailAddress localPart domain) = emailAddress redactionMark domain ↔
        '@' ∉ localPart.toList := by
    refine ⟨fun same separated => ?_, fun first => redact_emailAddress first domain⟩
    obtain ⟨hidden, shown, rfl, first⟩ := exists_emailAddress_of_mem separated
    rw [emailAddress_assoc, redact_emailAddress first, emailAddress_inj] at same
    exact emailAddress_ne shown domain same
  refine ⟨domain_iff localPart, fun hidden shown shape first => ?_, fun first => ?_⟩
  · rw [shape, emailAddress_assoc, redact_emailAddress first]
  · rw [redact_emailAddress first, eq_comm, domain_iff]

/-- Of a quoted local part with an `@` the end is left, so it is told apart from another local part. -/
theorem redact_discloses_quoted :
    '@' ∉ "user".toList ∧
      redact (emailAddress "\"joe@home\"" "example.com") = "[REDACTED]@home\"@example.com" ∧
      redact (emailAddress "user" "example.com") = "[REDACTED]@example.com" ∧
      Discloses "user" "\"joe@home\"" "example.com" :=
  ⟨by decide, by decide +kernel, by decide +kernel,
    redact_discloses "user" "\"joe@home\"" "example.com"⟩

/-- Redaction does not leave the domain only, whatever the local part is. -/
theorem not_forall_domain_only :
    ¬ ∀ localPart domain : String,
      '@' ∉ domain.toList →
        redact (localPart ++ "@" ++ domain) = redactionMark ++ "@" ++ domain := by
  intro domainOnly
  exact absurd (domainOnly "\"joe@home\"" "example.com" (by decide)) (by decide +kernel)

end MmsInbox
