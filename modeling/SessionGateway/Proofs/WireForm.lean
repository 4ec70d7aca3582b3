import SessionGateway.Proofs.Json.Reading
import SessionGateway.Proofs.Json.Record
import SessionGateway.Proofs.SessionProject

/-! What a client writes is read back as it was: session requests, refresh requests and tokens come
out of their texts and their values as they went in. -/

namespace SessionGateway

/-- A record comes back from the text with its fields in order, from its value, and from the text
of the value, which has its keys in order. -/
structure ReadsBack {ρ : Type} (fromText : JsonText.FieldReader ρ)
    (ofJson : Json → Except Mismatch ρ) (text : String) (value : Json) (r : ρ) : Prop where
  ofText : JsonText.readField? fromText text = .ok r
  ofValue : ofJson value = .ok r
  ofWire : JsonText.readField? fromText value.text = .ok r

section

variable {ρ : Type} {s : Schema ρ} {get : ρ → (f : s.Field) → s.Carrier f}
  {read : (f : s.Field) → JsonText.FieldReader (s.Carrier f)}
  {take : (f : s.Field) → Json.FieldReader (s.Carrier f)} {members : Members} {r : ρ}

/-- Members under distinct names are read from their text in whatever order. -/
theorem readField?_text_of_recordField (hs : s.Lawful get)
    (hread : ∀ f, JsonText.Complete (read f) (take f)) (hkeys : (members.map Prod.fst).Nodup)
    (hplain : ∀ m ∈ members, m.2.Plain 126)
    (htake : Json.recordField s take (.object members) = .ok r) :
    JsonText.readField? (JsonText.recordField s read) (Json.object members).text = .ok r := by
  set text := (Json.object members).text with htext
  have hspaced : JsonText.Spaced ((Json.object members).tokens ++ []) text.toList := by
    simpa [htext, Json.text] using
      Json.spaced_write JsonLayout.isBlank_compact 0 (Json.object members)
  have hreads : ∀ m ∈ members, JsonText.Reads (JsonText.readValue (text.toList.length + 1) 126)
      (text.toList.length + 1) m.2.tokens m.2 :=
    fun m hm => JsonText.reads_readValue _ (hplain m hm)
  obtain ⟨front, rest, hskip, hmembers, hrest, -⟩ :=
    JsonText.exists_readMembers hreads hspaced (Nat.lt_succ_self _)
  have hfront : front.length < text.toList.length + 1 := by
    have hle := JsonText.length_skipBlanks_le text.toList
    rw [hskip, List.length_cons] at hle
    exact Nat.lt_succ_of_lt hle
  have hsingle : ¬ s.Repeats (members.map Prod.fst) := by
    rintro ⟨f, hf⟩
    exact Nat.not_le_of_lt hf (List.nodup_iff_count_le_one.mp hkeys _)
  have hsorted := Json.recordField_object_perm hs (Members.ofPairs_perm hkeys).symm hkeys htake
  have hrecord :=
    JsonText.recordField_of_readMembers hs hread hskip hfront hmembers hsingle hsorted
  simp only [JsonText.readField?, JsonText.readWhole?, JsonText.depthLimit, hrecord,
    hrest.skipBlanks_nil]

/-- A record that its members stand for comes back from all its forms. -/
theorem readsBack_of_members {fromText : JsonText.FieldReader ρ} {ofJson : Json.FieldReader ρ}
    (h : JsonText.Fieldwise s get fromText ofJson) (hkeys : (members.map Prod.fst).Nodup)
    (hplain : (Json.object (Members.ofPairs members)).Plain JsonText.depthLimit)
    (htake : ofJson (.object members) = .ok r) :
    ReadsBack fromText ofJson (writeInOrder members) (.object (Members.ofPairs members)) r := by
  obtain ⟨hs, -, hread⟩ := h
  have hperm := Members.ofPairs_perm hkeys
  have hsorted : ∀ m ∈ Members.ofPairs members, m.2.Plain 126 := by
    cases hplain with
    | object _ hmembers => exact hmembers
  have hvalue := Json.recordField_object_perm hs hperm.symm hkeys htake
  constructor
  · exact readField?_text_of_recordField hs hread hkeys
      (fun m hm => hsorted m (hperm.mem_iff.mpr hm)) htake
  · exact hvalue
  · exact readField?_text_of_recordField hs hread ((hperm.map Prod.fst).nodup_iff.mpr hkeys)
      hsorted hvalue

end

namespace SessionPayload

def get (p : SessionPayload) : (f : schema.Field) → schema.Carrier f
  | .userExternalId => p.userExternalId
  | .projectId => p.projectId
  | .userData => p.userData

theorem lawful_schema : schema.Lawful get := by
  constructor
  · intro f
    cases f <;> rfl
  · intro ε read p
    constructor
    · intro h
      obtain ⟨user, huser, h⟩ := bind_eq_ok_iff.mp h
      obtain ⟨project, hproject, h⟩ := bind_eq_ok_iff.mp h
      obtain ⟨data, hdata, h⟩ := bind_eq_ok_iff.mp h
      obtain rfl := Except.ok.inj h
      intro f
      cases f <;> assumption
    · intro h
      rw [funext h]
      rfl

theorem recordField_members (p : SessionPayload) : ofJson (.object p.members) = .ok p := by
  obtain ⟨user, project, data⟩ := p
  cases project <;> cases data <;> rfl

theorem fieldwise : JsonText.Fieldwise schema get fromText ofJson := by
  refine .intro lawful_schema (fun f => ?_) (fun f => ?_)
  · cases f with
    | userExternalId => exact JsonText.sound_stringField
    | projectId => exact JsonText.sound_optionalField JsonText.sound_stringField
    | userData => exact JsonText.sound_optionalField JsonText.sound_mapField
  · cases f with
    | userExternalId => exact JsonText.complete_stringField
    | projectId => exact JsonText.complete_optionalField JsonText.complete_stringField
    | userData => exact JsonText.complete_optionalField JsonText.complete_mapField

theorem readsBack (p : SessionPayload) (hplain : p.toJson.Plain JsonText.depthLimit) :
    ReadsBack fromText ofJson p.text p.toJson p :=
  readsBack_of_members fieldwise p.nodup_keys_members hplain p.recordField_members

end SessionPayload

namespace RefreshRequest

def get (r : RefreshRequest) : (f : schema.Field) → schema.Carrier f
  | .refreshToken => r.refreshToken

theorem lawful_schema : schema.Lawful get := by
  constructor
  · intro f
    cases f
    rfl
  · intro ε read r
    constructor
    · intro h
      obtain ⟨token, htoken, h⟩ := bind_eq_ok_iff.mp h
      obtain rfl := Except.ok.inj h
      intro f
      cases f
      assumption
    · intro h
      rw [funext h]
      rfl

theorem plain_toJson (r : RefreshRequest) : r.toJson.Plain JsonText.depthLimit := by
  refine .object (Members.pairwise_ofPairs r.members) ?_
  intro m hm
  obtain rfl := List.mem_singleton.mp (Members.mem_of_mem_ofPairs hm)
  exact .string _ _

theorem fieldwise : JsonText.Fieldwise schema get fromText ofJson := by
  refine .intro lawful_schema (fun f => ?_) (fun f => ?_)
  · cases f
    exact JsonText.sound_stringField
  · cases f
    exact JsonText.complete_stringField

theorem readsBack (r : RefreshRequest) : ReadsBack fromText ofJson r.text r.toJson r :=
  readsBack_of_members fieldwise (by simp [members]) r.plain_toJson rfl

end RefreshRequest

namespace TokenBundle

def get (b : TokenBundle) : (f : schema.Field) → schema.Carrier f
  | .accessToken => b.accessToken
  | .refreshToken => b.refreshToken
  | .expiresIn => b.expiresIn
  | .tokenType => b.tokenType

theorem lawful_schema : schema.Lawful get := by
  constructor
  · intro f
    cases f <;> rfl
  · intro ε read b
    constructor
    · intro h
      obtain ⟨access, haccess, h⟩ := bind_eq_ok_iff.mp h
      obtain ⟨refresh, hrefresh, h⟩ := bind_eq_ok_iff.mp h
      obtain ⟨seconds, hseconds, h⟩ := bind_eq_ok_iff.mp h
      obtain ⟨type, htype, h⟩ := bind_eq_ok_iff.mp h
      obtain rfl := Except.ok.inj h
      intro f
      cases f <;> assumption
    · intro h
      rw [funext h]
      rfl

theorem plain_toJson {b : TokenBundle} (hrange : b.expiresIn < power 2 64) :
    b.toJson.Plain JsonText.depthLimit := by
  have h63 : power 2 63 = 9223372036854775808 := rfl
  refine .object (Members.pairwise_ofPairs b.members) ?_
  intro m hm
  have hmem := Members.mem_of_mem_ofPairs hm
  simp only [members, List.mem_cons, List.not_mem_nil, or_false] at hmem
  rcases hmem with rfl | rfl | rfl | rfl
  · exact .string _ _
  · exact .string _ _
  · exact .integer _ ⟨by omega, by exact_mod_cast hrange⟩
  · exact .string _ _

theorem isNumber_of_countField {v : Json} {n : Nat} (h : Json.countField v = .ok n) :
    JsonText.IsNumber v := by
  cases v with
  | integer i => exact .integer i
  | _ => simp [Json.countField, Json.refuse] at h

theorem fieldwise : JsonText.Fieldwise schema get fromText ofJson := by
  refine .intro lawful_schema (fun f => ?_) (fun f => ?_)
  · cases f with
    | expiresIn => exact JsonText.sound_numberField
    | accessToken => exact JsonText.sound_stringField
    | refreshToken => exact JsonText.sound_stringField
    | tokenType => exact JsonText.sound_stringField
  · cases f with
    | expiresIn => exact JsonText.complete_numberField isNumber_of_countField
    | accessToken => exact JsonText.complete_stringField
    | refreshToken => exact JsonText.complete_stringField
    | tokenType => exact JsonText.complete_stringField

theorem readsBack {b : TokenBundle} (hrange : b.expiresIn < power 2 64) :
    ReadsBack fromText ofJson b.text b.toJson b :=
  readsBack_of_members fieldwise (by simp [members]) (plain_toJson hrange) rfl

end TokenBundle

/-- Every session request without reals that is not nested too deep, every refresh request and every
bundle of tokens comes back from all its forms, and the body of a refresh call holds its token. -/
theorem wireForms_readBack :
    (∀ p : SessionPayload, p.toJson.Plain JsonText.depthLimit →
      ReadsBack SessionPayload.fromText SessionPayload.ofJson p.text p.toJson p) ∧
    (∀ r : RefreshRequest,
      ReadsBack RefreshRequest.fromText RefreshRequest.ofJson r.text r.toJson r) ∧
    (∀ b : TokenBundle, b.expiresIn < power 2 64 →
      ReadsBack TokenBundle.fromText TokenBundle.ofJson b.text b.toJson b) ∧
    ∀ (config : ClientConfig) (token : String) (now : Millis) (suffix : String),
      ∃ body, ((Call.refresh token).request config now suffix).body = some body ∧
        JsonText.readField? RefreshRequest.fromText body.text = .ok ⟨token⟩ := by
  refine ⟨fun p => p.readsBack, fun r => r.readsBack, fun b => TokenBundle.readsBack, ?_⟩
  intro config token now suffix
  exact ⟨RefreshRequest.toJson ⟨token⟩, rfl, (RefreshRequest.readsBack ⟨token⟩).ofWire⟩

/-- An empty project and empty data stay apart from none. -/
theorem wireForms_readBack_empty :
    ReadsBack SessionPayload.fromText SessionPayload.ofJson
        (SessionPayload.text ⟨"ü\n", some "", some []⟩)
        (SessionPayload.toJson ⟨"ü\n", some "", some []⟩) ⟨"ü\n", some "", some []⟩ ∧
      ReadsBack TokenBundle.fromText TokenBundle.ofJson
        (TokenBundle.text ⟨"", "r", 18446744073709551615, "Bearer"⟩)
        (TokenBundle.toJson ⟨"", "r", 18446744073709551615, "Bearer"⟩)
        ⟨"", "r", 18446744073709551615, "Bearer"⟩ := by
  constructor
  · apply wireForms_readBack.1
    refine .object (Members.pairwise_ofPairs _) ?_
    intro m hm
    have hmem := Members.mem_of_mem_ofPairs hm
    simp only [SessionPayload.members, Option.map_some, Option.toList_some, List.singleton_append,
      List.mem_cons, List.not_mem_nil, or_false] at hmem
    rcases hmem with rfl | rfl | rfl
    · exact .string _ _
    · exact .string _ _
    · exact .object .nil fun m hm => absurd hm List.not_mem_nil
  · apply wireForms_readBack.2.2.1
    decide

end SessionGateway
