import Mathlib
import SessionGateway.Proofs.CallHeaders
import SessionGateway.Proofs.Conduct

/-! What a session request says of the time. Its identifiers are all made of one reading of the
clock, and the nonce of a suffix besides, so that two requests have an identifier in common only if
they have in common what it was made of. -/

namespace SessionGateway

namespace Millis

theorem text_inj {now now' : Millis} : text now = text now' ↔ now = now' := by
  simp only [text, Int.toString_eq_repr, Int.repr_inj, Int64.toInt_inj]

/-- A number is written in digits, after a minus sign if it is negative. -/
theorem underscore_notMem_text (now : Millis) : '_' ∉ (text now).toList := by
  have hdigits (n : Nat) : '_' ∉ n.repr.toList := by
    rw [Nat.toList_repr]
    intro hmem
    have hdigit : '_'.isDigit = true :=
      Nat.isDigit_of_mem_toDigits (by decide) (by decide) hmem
    contradiction
  rw [text, Int.toString_eq_repr, Int.repr_eq_if]
  split
  · exact hdigits _
  · rw [String.toList_append, List.mem_append, not_or]
    exact ⟨by decide, hdigits _⟩

/-- The seconds are what the division of words gives, which is exact. -/
theorem toInt_div_thousand (now : Millis) : (now / 1000).toInt = seconds now := by
  have hone : (1000 : Int64) ≠ -1 := by decide
  rw [Int64.toInt_div_of_ne_right now 1000 hone]
  rfl

/-- What the seconds leave of the time is less than another second, on the same side of zero. -/
theorem exists_eq_seconds (now : Millis) :
    ∃ r, now.toInt = 1000 * seconds now + r ∧ |r| < 1000 ∧ (r = 0 ∨ r.sign = now.toInt.sign) := by
  refine ⟨now.toInt.tmod 1000, (Int.mul_tdiv_add_tmod now.toInt 1000).symm, ?_, ?_⟩
  · have hlt : now.toInt.natAbs % 1000 < 1000 := Nat.mod_lt _ (by decide)
    have habs : (now.toInt.tmod 1000).natAbs = now.toInt.natAbs % 1000 := Int.natAbs_tmod _ _
    rw [Int.abs_eq_natAbs]
    omega
  · have hsign := Int.sign_tmod now.toInt 1000
    split at hsign
    · exact .inl (Int.sign_eq_zero_iff_zero.mp hsign)
    · exact .inr hsign

end Millis

theorem idempotencyKey_inj {now now' : Millis} :
    idempotencyKey now = idempotencyKey now' ↔ now = now' := by
  rw [idempotencyKey, idempotencyKey, String.append_right_inj, Millis.text_inj]

/-- The number of a nonce ends at its first underscore, whatever the suffix holds. -/
theorem takeWhile_nonceText (now : Millis) (suffix : String) :
    (nonceText now suffix).toList.takeWhile (· ≠ '_') = (Millis.text now).toList := by
  have hnumber : ∀ c ∈ (Millis.text now).toList, decide (c ≠ '_') = true := by
    intro c hc
    have hne : c ≠ '_' := fun h => Millis.underscore_notMem_text now (h ▸ hc)
    exact decide_eq_true hne
  rw [nonceText, String.toList_append, String.toList_append, List.append_assoc,
    List.takeWhile_append_of_pos hnumber]
  simp

theorem nonceText_inj {now now' : Millis} {suffix suffix' : String} :
    nonceText now suffix = nonceText now' suffix' ↔ now = now' ∧ suffix = suffix' := by
  constructor
  · intro h
    have hnumber : (Millis.text now).toList = (Millis.text now').toList := by
      rw [← takeWhile_nonceText now suffix, h, takeWhile_nonceText]
    obtain rfl := Millis.text_inj.mp (String.toList_inj.mp hnumber)
    exact ⟨rfl, (String.append_right_inj _).mp h⟩
  · rintro ⟨rfl, rfl⟩
    rfl

/-- The identifiers of a session request are those of one reading of the clock and of one suffix,
and stand once each. -/
structure Request.Stamped (request : Request) (now : Millis) (suffix : String) : Prop where
  correlationId : request.headers.under HeaderName.correlationId =
    [(HeaderName.correlationId, "sdkpy_" ++ toString now.toInt)]
  idempotencyKey : request.headers.under HeaderName.idempotencyKey =
    [(HeaderName.idempotencyKey, "idem_" ++ toString now.toInt)]
  nonce : request.headers.under HeaderName.nonce =
    [(HeaderName.nonce, toString now.toInt ++ "_" ++ suffix)]
  /-- The division of words wraps for no reading. -/
  timestamp : ∃ seconds r, request.headers.under HeaderName.timestamp =
      [(HeaderName.timestamp, toString seconds)] ∧
    (now / 1000).toInt = seconds ∧ now.toInt = 1000 * seconds + r ∧ |r| < 1000 ∧
    (r = 0 ∨ r.sign = now.toInt.sign)

theorem Call.stamped_request (config : ClientConfig) (payload : SessionPayload) (now : Millis)
    (suffix : String) : ((Call.session payload).request config now suffix).Stamped now suffix := by
  have hrow {name value : String}
      (hmem : (name, some value) ∈ (Call.session payload).table config now suffix) :
      ((Call.session payload).request config now suffix).headers.under name = [(name, value)] :=
    Call.under_headers hmem
  have hall : (Call.session payload).options.idempotency = true := rfl
  obtain ⟨r, hr⟩ := Millis.exists_eq_seconds now
  constructor
  · exact hrow (by simp [table, HeaderOptions.table, SessionGateway.correlationId, Millis.text])
  · exact hrow (by simp [table, HeaderOptions.table, hall, SessionGateway.idempotencyKey,
      Millis.text])
  · exact hrow (by simp [table, HeaderOptions.table, hall, nonceText, Millis.text])
  · refine ⟨Millis.seconds now, r, hrow ?_, Millis.toInt_div_thousand now, hr⟩
    simp [table, HeaderOptions.table, hall]

/-- A call for a session reads the clock once, and its identifiers are those of this reading. The
requests of two calls for a session have the same idempotency key only if the readings are the same,
and the same nonce only if the suffixes are the same too. -/
theorem session_stamps (client other : Client) (answers others : Answers)
    (payload payload' : SessionPayload) :
    let now := answers.clock client.asked.clock
    let suffix := answers.suffix client.asked.suffix
    let now' := others.clock other.asked.clock
    let suffix' := others.suffix other.asked.suffix
    ∃ request request' : Request,
      (client.step answers (.session payload)).sent = [request] ∧
      (client.step answers (.session payload)).asked.clock = client.asked.clock + 1 ∧
      (other.step others (.session payload')).sent = [request'] ∧
      request.Stamped now suffix ∧ request'.Stamped now' suffix' ∧
      (request.headers.get? HeaderName.idempotencyKey =
        request'.headers.get? HeaderName.idempotencyKey ↔ now = now') ∧
      (request.headers.get? HeaderName.nonce = request'.headers.get? HeaderName.nonce ↔
        now = now' ∧ suffix = suffix') := by
  intro now suffix now' suffix'
  let request := (Call.session payload).requestFrom client.config answers.toSources client.asked
  let request' := (Call.session payload').requestFrom other.config others.toSources other.asked
  have hstamped : request.Stamped now suffix := Call.stamped_request client.config payload _ _
  have hstamped' : request'.Stamped now' suffix' := Call.stamped_request other.config payload' _ _
  refine ⟨request, request', ?_, ?_, ?_, hstamped, hstamped', ?_, ?_⟩
  · rw [Client.step_eq]
  · rw [Client.step_eq]
    rfl
  · rw [Client.step_eq]
  · rw [HeaderList.get?_eq, HeaderList.get?_eq, hstamped.idempotencyKey, hstamped'.idempotencyKey]
    simp only [List.head?_cons, Option.map_some, Option.some.injEq]
    exact idempotencyKey_inj
  · rw [HeaderList.get?_eq, HeaderList.get?_eq, hstamped.nonce, hstamped'.nonce]
    simp only [List.head?_cons, Option.map_some, Option.some.injEq]
    exact nonceText_inj

end SessionGateway
