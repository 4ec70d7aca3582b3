import SessionGateway.Proofs.Json.Rewriting
import SessionGateway.Proofs.WireForm

/-! Which values hold a bundle of tokens. Reading a bundle never looks into its tokens: an object
whose tokens are blanked is read as the bundle with blank tokens, or fails by the same words. -/

namespace SessionGateway

namespace Json

theorem stringField_eq_ok_iff {v : Json} {s : String} :
    stringField v = .ok s ↔ v = .string s := by
  cases v <;> simp [stringField, refuse]

/-- The natural numbers among the integers count. -/
theorem countField_eq_ok_iff {v : Json} {n : Nat} : countField v = .ok n ↔ v = .integer n := by
  cases v with
  | integer i =>
    simp only [countField]
    split_ifs with hi
    · simp only [Except.ok.injEq, integer.injEq]
      omega
    · simp only [integer.injEq, false_iff]
      omega
  | _ => simp [countField, refuse]

end Json

namespace TokenBundle

variable {b : TokenBundle}

/-- The values that hold the bundle: objects with its fields, whatever else they have, and arrays of
its fields in their order. The seconds have 64 bits. -/
inductive HeldIn (b : TokenBundle) : Json → Prop where
  | object {members : Members}
      (haccess : members.get? "access_token" = some (.string b.accessToken))
      (hrefresh : members.get? "refresh_token" = some (.string b.refreshToken))
      (hexpires : members.get? "expires_in" = some (.integer b.expiresIn))
      (hrange : b.expiresIn < power 2 64)
      (htype : members.get? "token_type" = some (.string b.tokenType)) :
      HeldIn b (.object members)
  | array (hrange : b.expiresIn < power 2 64) :
      HeldIn b (.array [.string b.accessToken, .string b.refreshToken, .integer b.expiresIn,
        .string b.tokenType])

def fieldReader : (f : schema.Field) → Json.FieldReader (schema.Carrier f)
  | .accessToken => Json.stringField
  | .refreshToken => Json.stringField
  | .expiresIn => Json.countField
  | .tokenType => Json.stringField

theorem ofJson_eq_recordField : ofJson = Json.recordField schema fieldReader := rfl

/-- The only value that the field is read from. -/
def fieldValue (b : TokenBundle) : schema.Field → Json
  | .accessToken => .string b.accessToken
  | .refreshToken => .string b.refreshToken
  | .expiresIn => .integer b.expiresIn
  | .tokenType => .string b.tokenType

theorem fieldReader_eq_ok_iff {f : schema.Field} {v : Json} :
    fieldReader f v = .ok (b.get f) ↔ v = b.fieldValue f := by
  cases f with
  | expiresIn => exact Json.countField_eq_ok_iff
  | accessToken => exact Json.stringField_eq_ok_iff
  | refreshToken => exact Json.stringField_eq_ok_iff
  | tokenType => exact Json.stringField_eq_ok_iff

theorem absent_eq_none (f : schema.Field) : schema.absent f = none := by
  cases f <;> rfl

theorem ofJson_object_eq_ok_iff {members : Members} (hkeys : (members.map Prod.fst).Nodup) :
    ofJson (.object members) = .ok b ↔
      ∀ f, members.get? (schema.name f) = some (b.fieldValue f) := by
  rw [ofJson_eq_recordField, Json.recordField_object_eq_ok_iff_lookup lawful_schema hkeys]
  constructor
  · rintro ⟨hgiven, habsent⟩ f
    cases hv : members.lookup (schema.name f) with
    | none =>
      have hsome := habsent f hv
      rw [absent_eq_none] at hsome
      contradiction
    | some v =>
      rw [← fieldReader_eq_ok_iff.mp (hgiven f v hv)]
      exact hv
  · intro h
    refine ⟨fun f v hv => ?_, fun f hnone => ?_⟩
    · exact fieldReader_eq_ok_iff.mpr (Option.some.inj (hv.symm.trans (h f)))
    · exact nomatch hnone.symm.trans (h f)

/-- The items of an array are all the fields of the bundle. -/
theorem ofJson_array_eq_ok_iff {items : List Json} :
    ofJson (.array items) = .ok b ↔ items = schema.fields.map b.fieldValue := by
  have hkeys : (((schema.fields.map schema.name).zip items).map Prod.fst).Nodup := by
    rw [List.zip_eq_zip_take_min, List.map_fst_zip (by simp)]
    exact List.Nodup.sublist (List.take_sublist _ _) (by decide)
  rw [ofJson_eq_recordField, Json.recordField_array_eq_ok_iff lawful_schema,
    ← ofJson_eq_recordField, ofJson_object_eq_ok_iff hkeys]
  constructor
  · rintro ⟨hlength, h⟩
    have haccess := h .accessToken
    have hrefresh := h .refreshToken
    have hexpires := h .expiresIn
    have htype := h .tokenType
    -- With fewer items the last name has no value, with more the array is too long.
    rcases items with _ | ⟨access, _ | ⟨refresh, _ | ⟨seconds, _ | ⟨type, _ | ⟨extra, rest⟩⟩⟩⟩⟩
    · cases htype
    · cases htype
    · cases htype
    · cases htype
    · cases haccess
      cases hrefresh
      cases hexpires
      cases htype
      rfl
    · simp only [List.length_cons] at hlength
      have hfields : schema.fields.length = 4 := rfl
      omega
  · rintro rfl
    refine ⟨Nat.le_refl _, fun f => ?_⟩
    cases f <;> rfl

/-- A value that was read is a bundle just if it holds one, and then it is the one that it holds. -/
theorem ofJson_eq_ok_iff_heldIn {v : Json} (hv : JsonText.IsRead v) :
    ofJson v = .ok b ↔ b.HeldIn v := by
  cases v with
  | object members =>
    obtain ⟨hkeys, hmembers⟩ := hv.members
    rw [ofJson_object_eq_ok_iff hkeys]
    constructor
    · intro h
      have hexpires := h .expiresIn
      have hrange := (hmembers _ (mem_of_lookup_eq_some hexpires)).inRange.2
      exact .object (h .accessToken) (h .refreshToken) hexpires (by exact_mod_cast hrange)
        (h .tokenType)
    · rintro (⟨haccess, hrefresh, hexpires, -, htype⟩ | -)
      intro f
      cases f <;> assumption
  | array items =>
    rw [ofJson_array_eq_ok_iff]
    constructor
    · rintro rfl
      have hseconds := List.mem_map_of_mem (f := b.fieldValue) (lawful_schema.mem_fields .expiresIn)
      have hrange := (hv.items _ hseconds).inRange.2
      exact .array (by exact_mod_cast hrange)
    · rintro ⟨⟩
      rfl
  | _ =>
    constructor
    · intro h
      cases h
    · rintro ⟨⟩

/-! ## Blank tokens -/

/-- The bundle with blank tokens. -/
def blanked (b : TokenBundle) : TokenBundle := { b with accessToken := "", refreshToken := "" }

def blankField : (f : schema.Field) → schema.Carrier f → schema.Carrier f
  | .accessToken, _ => ""
  | .refreshToken, _ => ""
  | .expiresIn, seconds => seconds
  | .tokenType, type => type

/-- What is no text is no token, and stays. -/
def blankValue : schema.Field → Json → Json
  | .accessToken, .string _ => .string ""
  | .refreshToken, .string _ => .string ""
  | _, v => v

theorem fieldReader_blankValue (f : schema.Field) (v : Json) :
    fieldReader f (blankValue f v) = (fieldReader f v).map (blankField f) := by
  cases f with
  | accessToken => cases v <;> rfl
  | refreshToken => cases v <;> rfl
  | expiresIn =>
    show Json.countField v = (Json.countField v).map fun seconds => seconds
    cases Json.countField v <;> rfl
  | tokenType =>
    show Json.stringField v = (Json.stringField v).map fun type => type
    cases Json.stringField v <;> rfl

theorem finish_mapSlots_blankField {ε : Type} (missing : schema.Field → ε) (slots : schema.Slots) :
    schema.finish missing (schema.mapSlots blankField slots) =
      (schema.finish missing slots).map blanked := by
  simp only [Schema.finish, Schema.mapSlots, schema]
  -- The first empty slot decides, and the same slots are empty on both sides.
  cases slots .accessToken with
  | none => rfl
  | some access =>
  cases slots .refreshToken with
  | none => rfl
  | some refresh =>
  cases slots .expiresIn with
  | none => rfl
  | some seconds => cases slots .tokenType <;> rfl

/-- The object without the texts of its tokens. -/
def blankMembers (members : Members) : Members := members.map (schema.mapNamed blankValue)

/-- Blank tokens are read as blank tokens, and no fault of the object is in them. -/
theorem ofJson_blankMembers (members : Members) :
    ofJson (.object (blankMembers members)) = (ofJson (.object members)).map blanked := by
  have hfill : schema.fill fieldReader schema.noSlots (blankMembers members) =
      (schema.fill fieldReader schema.noSlots members).map (schema.mapSlots blankField) :=
    Schema.fill_map_mapNamed fieldReader_blankValue schema.noSlots members
  simp only [ofJson_eq_recordField, Json.recordField, Json.fillSlots_eq_fill, hfill]
  cases schema.fill fieldReader schema.noSlots members with
  | error e => rfl
  | ok slots => exact finish_mapSlots_blankField schema.missingField slots

/-- Members that differ in the text of a token at most. -/
inductive SameButToken : String × Json → String × Json → Prop where
  | same (m : String × Json) : SameButToken m m
  | access (text text' : String) :
      SameButToken ("access_token", .string text) ("access_token", .string text')
  | refresh (text text' : String) :
      SameButToken ("refresh_token", .string text) ("refresh_token", .string text')

theorem blankMembers_eq {members members' : Members}
    (h : List.Forall₂ SameButToken members members') :
    blankMembers members = blankMembers members' := by
  induction h with
  | nil => rfl
  | cons hm _ ih =>
    refine congrArg₂ List.cons ?_ ih
    cases hm <;> rfl

end TokenBundle

end SessionGateway
