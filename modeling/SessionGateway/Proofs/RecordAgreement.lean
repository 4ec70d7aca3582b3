import SessionGateway.Proofs.WireForm

/-! A record read straight from a text is the one that is taken from the value of the text, unless
the text names a field twice: the first way refuses it, the second keeps what comes last. -/

namespace SessionGateway

namespace JsonText

/-- The members at the top of a text in their order, whatever keys come again. -/
def topMembers (text : String) : List (String × Json) :=
  let fuel := text.toList.length + 1
  match skipBlanks text.toList with
  | '\x7b' :: cs =>
    match readMembers (readValue fuel (depthLimit - 1)) fuel fuel true [] cs with
    | .ok (pairs, _) => pairs
    | .error _ => []
  | _ => []

/-- The keys at the top of a text. -/
def topKeys (text : String) : List String := (topMembers text).map Prod.fst

end JsonText

/-- A record of the schema is read alike from a text and from the value of the text. -/
structure ReadsAlike {ρ : Type} (s : Schema ρ) (fromText : JsonText.FieldReader ρ)
    (ofJson : Json → Except Mismatch ρ) (text : String) (v : Json) : Prop where
  same : ¬ s.Repeats (JsonText.topKeys text) →
    ∀ r, JsonText.readField? fromText text = .ok r ↔ ofJson v = .ok r
  refused : s.Repeats (JsonText.topKeys text) →
    ∃ e, JsonText.readField? fromText text = .error e
  latest : s.Repeats (JsonText.topKeys text) →
    v = .object (Members.ofPairs (Members.latest (JsonText.topMembers text))) ∧
      ∀ r, ofJson v = .ok r ↔ ofJson (.object (Members.latest (JsonText.topMembers text))) = .ok r

section

variable {ρ : Type} {s : Schema ρ} {get : ρ → (f : s.Field) → s.Carrier f}
  {read : (f : s.Field) → JsonText.FieldReader (s.Carrier f)}
  {take : (f : s.Field) → Json.FieldReader (s.Carrier f)} {text : String}

/-- What is read of an object that stands for a whole text. -/
theorem readField?_object_eq_ok_iff (hs : s.Lawful get)
    (hsound : ∀ f, JsonText.Sound (read f) (take f))
    (hcomplete : ∀ f, JsonText.Complete (read f) (take f))
    {pairs : List (String × Json)} {tail rest : List Char}
    (hblank : JsonText.skipBlanks text.toList = '\x7b' :: tail)
    (hmembers : JsonText.readMembers (JsonText.readValue (text.toList.length + 1) 126)
      (text.toList.length + 1) (text.toList.length + 1) true [] tail = .ok (pairs, rest))
    (hrest : JsonText.skipBlanks rest = []) {r : ρ} :
    JsonText.readField? (JsonText.recordField s read) text = .ok r ↔
      ¬ s.Repeats (pairs.map Prod.fst) ∧
        Json.recordField s take (.object (Members.ofPairs pairs)) = .ok r := by
  have hlength : tail.length < text.toList.length + 1 := by
    have hle := JsonText.length_skipBlanks_le text.toList
    rw [hblank, List.length_cons] at hle
    exact Nat.lt_succ_of_lt hle
  constructor
  · intro h
    obtain ⟨out, hrecord⟩ := JsonText.exists_of_readWhole? h
    obtain ⟨htake, -, hsingle⟩ :=
      JsonText.take_of_recordField_object hs hsound hblank hlength hmembers hrecord
    exact ⟨hsingle, htake⟩
  · rintro ⟨hsingle, htake⟩
    exact JsonText.readWhole?_eq_ok_iff.mpr ⟨rest,
      JsonText.recordField_of_readMembers hs hcomplete hblank hlength hmembers hsingle htake, hrest⟩

theorem topMembers_of_readMembers {pairs : List (String × Json)} {tail rest : List Char}
    (hblank : JsonText.skipBlanks text.toList = '\x7b' :: tail)
    (hmembers : JsonText.readMembers (JsonText.readValue (text.toList.length + 1) 126)
      (text.toList.length + 1) (text.toList.length + 1) true [] tail = .ok (pairs, rest)) :
    JsonText.topMembers text = pairs := by
  simp only [JsonText.topMembers, hblank, JsonText.depthLimit, Nat.reduceSub, hmembers]

theorem topMembers_of_ne_brace {c : Char} {tail : List Char}
    (hblank : JsonText.skipBlanks text.toList = c :: tail) (hc : c ≠ '\x7b') :
    JsonText.topMembers text = [] := by
  unfold JsonText.topMembers
  dsimp only
  rw [hblank]
  split
  · rename_i heq
    exact absurd (List.cons.inj heq).1 hc
  · rfl

/-- The members at the top of a text make its value, unless that is no object; then there are
none. -/
theorem members_of_ofText {v : Json} (h : Json.ofText text = .ok v) :
    v = .object (Members.ofPairs (JsonText.topMembers text)) ∨
      (∀ members, v ≠ .object members) ∧ JsonText.topMembers text = [] := by
  obtain ⟨rest, hread⟩ := JsonText.exists_of_readWhole? h
  obtain ⟨c, tail, hblank, hbegins⟩ := JsonText.exists_begins hread
  have hother (hv : ∀ members, v ≠ .object members) (hc : c ≠ '\x7b') :
      (∀ members, v ≠ .object members) ∧ JsonText.topMembers text = [] :=
    ⟨hv, topMembers_of_ne_brace hblank hc⟩
  cases hbegins with
  | @object below pairs hdepth hmembers =>
    obtain rfl : 126 = below := Nat.succ.inj hdepth
    exact .inl (by rw [topMembers_of_readMembers hblank hmembers])
  | negative hv =>
    refine .inr (hother ?_ (by decide))
    cases hv <;> exact nofun
  | natural hv hdigit =>
    refine .inr (hother ?_ ?_)
    · cases hv <;> exact nofun
    · rintro rfl
      contradiction
  | _ => exact .inr (hother nofun (by decide))

/-- Records whose fields are read alike are read alike. -/
theorem readsAlike_of_fieldwise {fromText : JsonText.FieldReader ρ} {ofJson : Json.FieldReader ρ}
    (h : JsonText.Fieldwise s get fromText ofJson) {v : Json} (hvalue : Json.ofText text = .ok v) :
    ReadsAlike s fromText ofJson text v := by
  obtain @⟨read, take, hs, hsound, hcomplete⟩ := h
  obtain ⟨rest, hread, hrest⟩ := JsonText.readWhole?_eq_ok_iff.mp hvalue
  obtain ⟨c, tail, hblank, hbegins⟩ := JsonText.exists_begins hread
  have hsame : ∀ r, JsonText.readField? (JsonText.recordField s read) text = .ok r →
      Json.recordField s take v = .ok r := by
    intro r
    exact JsonText.Sound.take_of_readField? (JsonText.sound_recordField hs hsound) hvalue
  -- A value that is no object has no members, so that no field comes twice.
  have hother (hc : c ≠ '\x7b') (hback : ∀ r, Json.recordField s take v = .ok r →
      JsonText.readField? (JsonText.recordField s read) text = .ok r) :
      ReadsAlike s (JsonText.recordField s read) (Json.recordField s take) text v := by
    have hsingle : ¬ s.Repeats (JsonText.topKeys text) := by
      rintro ⟨f, hf⟩
      rw [JsonText.topKeys, topMembers_of_ne_brace hblank hc] at hf
      contradiction
    exact ⟨fun _ r => ⟨hsame r, hback r⟩, fun h => absurd h hsingle, fun h => absurd h hsingle⟩
  cases hbegins with
  | null => exact hother (by decide) nofun
  | yes => exact hother (by decide) nofun
  | no => exact hother (by decide) nofun
  | string => exact hother (by decide) nofun
  | negative hv =>
    refine hother (by decide) ?_
    cases hv <;> exact nofun
  | natural hv hdigit =>
    refine hother ?_ ?_
    · rintro rfl
      contradiction
    · cases hv <;> exact nofun
  | array hdepth hitems =>
    refine hother (by decide) fun r htake => ?_
    have hrecord := JsonText.recordField_of_readItems hs hcomplete hblank hitems htake
    rw [← hdepth] at hrecord
    exact JsonText.readWhole?_eq_ok_iff.mpr ⟨rest, hrecord, hrest⟩
  | @object below pairs hdepth hmembers =>
    obtain rfl : 126 = below := Nat.succ.inj hdepth
    have htop := topMembers_of_readMembers hblank hmembers
    have hiff {r : ρ} := readField?_object_eq_ok_iff (r := r) hs hsound hcomplete hblank hmembers hrest
    rw [← htop] at hiff ⊢
    refine ⟨fun hsingle r => ?_, fun hrepeats => ?_, fun _ => ⟨?_, fun r => ?_⟩⟩
    · exact hiff.trans (and_iff_right hsingle)
    · cases hfield : JsonText.readField? (JsonText.recordField s read) text with
      | error e => exact ⟨e, rfl⟩
      | ok r => exact absurd hrepeats (hiff.mp hfield).1
    · rw [Members.ofPairs_latest]
    · have hkeys := Members.nodup_keys_latest (JsonText.topMembers text)
      have hperm := Members.ofPairs_perm hkeys
      rw [Members.ofPairs_latest] at hperm
      constructor
      · exact Json.recordField_object_perm hs hperm (Members.nodup_keys_ofPairs _)
      · exact Json.recordField_object_perm hs hperm.symm hkeys

end

/-- Session requests, refresh requests and tokens are read alike from every text that is a JSON
value and from the value, whose members are those at the top of the text. -/
theorem records_readAlike {text : String} {v : Json} (h : Json.ofText text = .ok v) :
    (v = .object (Members.ofPairs (JsonText.topMembers text)) ∨
      (∀ members, v ≠ .object members) ∧ JsonText.topMembers text = []) ∧
      ReadsAlike SessionPayload.schema SessionPayload.fromText SessionPayload.ofJson text v ∧
      ReadsAlike RefreshRequest.schema RefreshRequest.fromText RefreshRequest.ofJson text v ∧
      ReadsAlike TokenBundle.schema TokenBundle.fromText TokenBundle.ofJson text v :=
  ⟨members_of_ofText h, readsAlike_of_fieldwise SessionPayload.fieldwise h,
    readsAlike_of_fieldwise RefreshRequest.fieldwise h,
    readsAlike_of_fieldwise TokenBundle.fieldwise h⟩

theorem exists_of_toOption_bind {α β ε ε' : Type} {x : Except ε α} {f : α → Except ε' β} {b : β}
    (h : (x.toOption.bind fun a => (f a).toOption) = some b) : ∃ a, x = .ok a ∧ f a = .ok b := by
  cases x with
  | error e => contradiction
  | ok a =>
    refine ⟨a, rfl, ?_⟩
    cases hf : f a with
    | error e => simp [Except.toOption, hf] at h
    | ok c => simpa [Except.toOption, hf] using h

/-- The only field stands between two members of the same unknown key. -/
def escapedText : String := "\x7b\"x\":[0],\"refresh\\u005ftoken\":\"a\",\"x\":1\x7d"

/-- The only field comes twice, the second time with an escape in its key. -/
def repeatedText : String := "\x7b\"refresh_token\":\"a\",\"refresh\\u005ftoken\":\"b\"\x7d"

theorem records_readAlike_sample :
    (∃ v, Json.ofText escapedText = .ok v ∧ RefreshRequest.ofJson v = .ok ⟨"a"⟩ ∧
      JsonText.readField? RefreshRequest.fromText escapedText = .ok ⟨"a"⟩) ∧
    ∃ v, Json.ofText repeatedText = .ok v ∧ RefreshRequest.ofJson v = .ok ⟨"b"⟩ ∧
      ∃ e, JsonText.readField? RefreshRequest.fromText repeatedText = .error e := by
  constructor
  · obtain ⟨v, hv, hr⟩ := exists_of_toOption_bind (x := Json.ofText escapedText)
      (f := RefreshRequest.ofJson) (b := ⟨"a"⟩) (by decide +kernel)
    refine ⟨v, hv, hr, ((records_readAlike hv).2.2.1.same ?_ _).mpr hr⟩
    rintro ⟨f, hf⟩
    cases f
    exact absurd hf (by decide +kernel)
  · obtain ⟨v, hv, hr⟩ := exists_of_toOption_bind (x := Json.ofText repeatedText)
      (f := RefreshRequest.ofJson) (b := ⟨"b"⟩) (by decide +kernel)
    exact ⟨v, hv, hr, (records_readAlike hv).2.2.1.refused ⟨.refreshToken, by decide +kernel⟩⟩

end SessionGateway
