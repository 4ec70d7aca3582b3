import SessionGateway.Proofs.Json.Reading
import SessionGateway.Proofs.Json.Record

/-! Values that are read from a text and written again. What a reader makes of a text without reals
is plain: its integers have 64 bits, its members stand in order, and it is no deeper than the reader
goes. So it can be written in any layout, and is read back as it was. -/

namespace SessionGateway

/-- Values that no real number is a part of. -/
inductive Json.RealFree : Json → Prop where
  | null : RealFree null
  | bool (b : Bool) : RealFree (bool b)
  | integer (i : Int) : RealFree (integer i)
  | string (s : String) : RealFree (string s)
  | array {items : List Json} (hitems : ∀ v ∈ items, RealFree v) : RealFree (array items)
  | object {members : Members} (hmembers : ∀ m ∈ members, RealFree m.2) :
      RealFree (object members)

namespace JsonText

theorem inRange_of_ofInt {i n : Int} (h : Json.ofInt n = .integer i) : Json.InRange i := by
  unfold Json.ofInt at h
  split_ifs at h with hrange
  exact Json.integer.inj h ▸ hrange

/-- An integer that is read has 64 bits. -/
theorem inRange_of_readNumber {negative : Bool} {cs rest : List Char} {i : Int}
    (h : readNumber negative cs = .ok (.integer i, rest)) : Json.InRange i := by
  simp only [readNumber] at h
  obtain ⟨⟨whole, behind⟩, -, h⟩ := bind_eq_ok_iff.mp h
  obtain ⟨⟨part, back⟩, -, h⟩ := bind_eq_ok_iff.mp h
  obtain ⟨⟨exponent, left⟩, -, h⟩ := bind_eq_ok_iff.mp h
  dsimp only at h
  generalize (ite (negative = true) _ _ : Int) = n at h
  split at h
  · exact inRange_of_ofInt (Prod.mk.inj (Except.ok.inj h)).1
  · generalize real? negative _ _ = x? at h
    cases x? with
    | none => contradiction
    | some x => cases (Prod.mk.inj (Except.ok.inj h)).1

theorem plain_of_readNumber {negative : Bool} {cs rest : List Char} {v : Json} (depth : Nat)
    (hv : IsNumber v) (h : readNumber negative cs = .ok (v, rest)) (hfree : v.RealFree) :
    v.Plain depth := by
  cases hv with
  | integer i => exact .integer depth (inRange_of_readNumber h)
  | real x => cases hfree

/-- A value without reals is read plain, and no deeper than the reader goes. -/
theorem plain_of_readValue {fuel depth : Nat} {cs rest : List Char} {v : Json}
    (h : readValue fuel depth cs = .ok (v, rest)) (hfree : v.RealFree) : v.Plain depth := by
  induction depth using Nat.strongRecOn generalizing cs rest v with
  | ind depth ih =>
    obtain ⟨c, tail, -, hbegins⟩ := exists_begins h
    cases hbegins with
    | null => exact .null depth
    | yes => exact .bool depth true
    | no => exact .bool depth false
    | negative hv hnumber => exact plain_of_readNumber depth hv hnumber hfree
    | natural hv _ hnumber => exact plain_of_readNumber depth hv hnumber hfree
    | string => exact .string depth _
    | @array below items hdepth hitems =>
      subst hdepth
      cases hfree with
      | array hfree =>
        obtain ⟨items', left, hall, hitems', -⟩ := exists_itemsRead hitems
        obtain rfl : items = items' := hitems'
        refine .array fun v hv => ?_
        obtain ⟨front, behind, hread⟩ := hall.exists_read v hv
        exact ih below (Nat.lt_succ_self below) hread (hfree v hv)
    | @object below pairs hdepth hmembers =>
      subst hdepth
      cases hfree with
      | object hfree =>
        obtain ⟨pairs', left, hall, hpairs', -⟩ := exists_membersRead hmembers
        obtain rfl : pairs = pairs' := hpairs'
        refine .object (Members.pairwise_ofPairs pairs) fun m hm => ?_
        obtain ⟨front, behind, hread⟩ := hall.exists_read m (Members.mem_of_mem_ofPairs hm)
        exact ih below (Nat.lt_succ_self below) hread (hfree m hm)

theorem IsRead.inRange {i : Int} (h : IsRead (.integer i)) : Json.InRange i := by
  obtain ⟨fuel, depth, cs, rest, hvalue⟩ := h
  have hplain := plain_of_readValue hvalue (.integer i)
  cases hplain with
  | integer _ hrange => exact hrange

end JsonText

namespace Json

variable {text : String} {v : Json}

theorem plain_of_ofText (h : ofText text = .ok v) (hfree : v.RealFree) :
    v.Plain JsonText.depthLimit := by
  obtain ⟨rest, hread⟩ := JsonText.exists_of_readWhole? h
  exact JsonText.plain_of_readValue hread hfree

/-- A value that was read is read back when it is spread over lines. -/
theorem ofText_spreadText (h : ofText text = .ok v) (hfree : v.RealFree) :
    ofText v.spreadText = .ok v :=
  ofText_write JsonLayout.isBlank_spread (plain_of_ofText h hfree)

end Json

end SessionGateway
