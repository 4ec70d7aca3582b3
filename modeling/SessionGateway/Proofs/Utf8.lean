import Mathlib.Tactic.SplitIfs
import SessionGateway.Text.Utf8

/-! Texts come back from their bytes. A character of several bytes has no byte of the ASCII range, so
that what stands between characters of that range is told apart by them alone. -/

namespace SessionGateway.Text

theorem utf8_append (cs ds : List Char) : utf8 (cs ++ ds) = utf8 cs ++ utf8 ds :=
  List.flatMap_append

theorem utf8EncodeChar_of_lt {c : Char} (h : c.toNat < 0x80) :
    String.utf8EncodeChar c = [UInt8.ofNat c.toNat] := by
  have hsmall : c.val.toNat ≤ 127 := Nat.le_of_lt_succ h
  simp only [String.utf8EncodeChar, if_pos hsmall]
  rfl

theorem le_of_mem_utf8EncodeChar {c : Char} (h : 0x80 ≤ c.toNat) :
    ∀ b ∈ String.utf8EncodeChar c, 0x80 ≤ b := by
  have hlarge : ¬ c.val.toNat ≤ 127 := Nat.not_le_of_lt h
  have hbyte (n : Nat) (hn : 128 ≤ n % 256) : 0x80 ≤ UInt8.ofNat n := by
    rw [UInt8.le_iff_toNat_le, UInt8.toNat_ofNat']
    exact hn
  intro b hb
  simp only [String.utf8EncodeChar, hlarge, if_false] at hb
  split_ifs at hb <;> simp only [List.mem_cons, List.not_mem_nil, or_false] at hb
  · rcases hb with rfl | rfl <;> exact hbyte _ (by omega)
  · rcases hb with rfl | rfl | rfl <;> exact hbyte _ (by omega)
  · rcases hb with rfl | rfl | rfl | rfl <;> exact hbyte _ (by omega)

theorem length_utf8 (s : String) : (utf8 s.toList).length = s.utf8ByteSize := by
  rw [← String.size_toByteArray, ← String.utf8Encode_toList, List.utf8Encode,
    List.size_toByteArray, utf8]

/-! ## The ASCII range -/

/-- The bytes of the range are characters of their own. -/
theorem mem_of_mem_utf8 {cs : List Char} {b : UInt8} (hb : b ∈ utf8 cs) (hlt : b < 0x80) :
    Char.ofNat b.toNat ∈ cs := by
  obtain ⟨c, hc, hb⟩ := List.mem_flatMap.mp hb
  rcases Nat.lt_or_ge c.toNat 0x80 with hsmall | hlarge
  · rw [utf8EncodeChar_of_lt hsmall, List.mem_singleton] at hb
    have hnat : b.toNat = c.toNat := by
      rw [hb, UInt8.toNat_ofNat']
      omega
    rwa [hnat, Char.ofNat_toNat]
  · exact absurd hlt (UInt8.not_lt.mpr (le_of_mem_utf8EncodeChar hlarge b hb))

theorem utf8_of_ascii {cs : List Char} (h : ∀ c ∈ cs, c.toNat < 0x80) :
    utf8 cs = cs.map fun c => UInt8.ofNat c.toNat := by
  induction cs with
  | nil => rfl
  | cons c cs ih =>
    have hrest := ih fun d hd => h d (List.mem_cons_of_mem _ hd)
    rw [utf8, List.flatMap_cons, utf8EncodeChar_of_lt (h c List.mem_cons_self), List.map_cons,
      ← hrest]
    rfl

theorem map_ofNat_utf8 {cs : List Char} (h : ∀ c ∈ cs, c.toNat < 0x80) :
    (utf8 cs).map (fun b => Char.ofNat b.toNat) = cs := by
  have hsame : ∀ c ∈ cs, Char.ofNat (UInt8.ofNat c.toNat).toNat = c := by
    intro c hc
    have hc := h c hc
    rw [UInt8.toNat_ofNat', Nat.mod_eq_of_lt (by omega), Char.ofNat_toNat]
  rw [utf8_of_ascii h, List.map_map]
  exact (List.map_congr_left hsame).trans (List.map_id _)

/-! ## Characters of several bytes -/

/-- The byte that continues a character with so many bits. -/
def continuation (bits : Nat) : UInt8 := UInt8.ofNat (bits % 64 + 128)

theorem takeContinuation_continuation {low high : UInt8} {bits : Nat}
    (hlow : low.toNat ≤ bits % 64 + 128) (hhigh : bits % 64 + 128 ≤ high.toNat) (count : Nat)
    (rest : List UInt8) : takeContinuation (count + 1) low high (continuation bits :: rest) =
      continuation bits :: takeContinuation count 0x80 0xBF rest := by
  have hbyte : (continuation bits).toNat = bits % 64 + 128 := by
    rw [continuation, UInt8.toNat_ofNat']
    omega
  rw [takeContinuation, if_pos]
  simp only [UInt8.le_iff_toNat_le, hbyte, hlow, hhigh, decide_true, Bool.and_self]

theorem toNat_continuation_mod (bits : Nat) : (continuation bits).toNat % 64 = bits % 64 := by
  rw [continuation, UInt8.toNat_ofNat']
  omega

theorem nextChar_of_shape {b low high : UInt8} {rest more : List UInt8} {count : Nat}
    (hb : ¬ b < 0x80) (hshape : sequenceShape? b = some (count, low, high))
    (hmore : takeContinuation count low high rest = more) (hlength : more.length = count) :
    nextChar b rest = (some (Char.ofNat
      (more.foldl (fun n b => 64 * n + b.toNat % 64) (leadingBits count b))), count + 1) := by
  simp only [nextChar, hb, if_false, hshape, hmore, hlength, if_true]

theorem takeContinuation_zero (low high : UInt8) (rest : List UInt8) :
    takeContinuation 0 low high rest = [] := by
  cases rest <;> rfl

theorem takeContinuation_of_any (bits count : Nat) (rest : List UInt8) :
    takeContinuation (count + 1) 0x80 0xBF (continuation bits :: rest) =
      continuation bits :: takeContinuation count 0x80 0xBF rest :=
  takeContinuation_continuation (Nat.le_add_left _ _) (show bits % 64 + 128 ≤ 191 by omega) count
    rest

section Sizes

variable {v : Nat} (rest : List UInt8)

theorem nextChar_two (hlow : 0x80 ≤ v) (hhigh : v ≤ 0x7FF) :
    nextChar (UInt8.ofNat (v / 64 % 32 + 192)) (continuation v :: rest) =
      (some (Char.ofNat v), 2) := by
  have hfirst : ∀ k < 32, 2 ≤ k → ¬ UInt8.ofNat (k + 192) < 0x80 ∧
      sequenceShape? (UInt8.ofNat (k + 192)) = some (1, 0x80, 0xBF) ∧
      leadingBits 1 (UInt8.ofNat (k + 192)) = k := by decide
  obtain ⟨hb, hshape, hlead⟩ := hfirst (v / 64 % 32) (by omega) (by omega)
  have hmore : takeContinuation 1 0x80 0xBF (continuation v :: rest) = [continuation v] := by
    rw [takeContinuation_of_any, takeContinuation_zero]
  rw [nextChar_of_shape hb hshape hmore rfl, hlead]
  simp only [List.foldl_cons, List.foldl_nil, toNat_continuation_mod]
  congr 3
  omega

/-- Surrogates are no characters, so that the second byte is never beyond its range. -/
theorem nextChar_three (hlow : 0x800 ≤ v) (hhigh : v ≤ 0xFFFF) (hvalid : v < 0xD800 ∨ 0xDFFF < v) :
    nextChar (UInt8.ofNat (v / 4096 % 16 + 224)) (continuation (v / 64) :: continuation v :: rest) =
      (some (Char.ofNat v), 3) := by
  have hfirst : ∀ k < 16, ¬ UInt8.ofNat (k + 224) < 0x80 ∧
      sequenceShape? (UInt8.ofNat (k + 224)) =
        some (2, if k = 0 then 0xA0 else 0x80, if k = 13 then 0x9F else 0xBF) ∧
      leadingBits 2 (UInt8.ofNat (k + 224)) = k := by decide
  obtain ⟨hb, hshape, hlead⟩ := hfirst (v / 4096 % 16) (by omega)
  have hmore : takeContinuation 2 (if v / 4096 % 16 = 0 then 0xA0 else 0x80)
      (if v / 4096 % 16 = 13 then 0x9F else 0xBF) (continuation (v / 64) :: continuation v :: rest) =
        [continuation (v / 64), continuation v] := by
    rw [takeContinuation_continuation, takeContinuation_of_any, takeContinuation_zero]
    · split_ifs
      · show 160 ≤ _
        omega
      · exact Nat.le_add_left _ _
    · split_ifs
      · show _ ≤ 159
        omega
      · show _ ≤ 191
        omega
  rw [nextChar_of_shape hb hshape hmore rfl, hlead]
  simp only [List.foldl_cons, List.foldl_nil, toNat_continuation_mod]
  congr 3
  omega

theorem nextChar_four (hlow : 0x10000 ≤ v) (hhigh : v < 0x110000) :
    nextChar (UInt8.ofNat (v / 262144 % 8 + 240))
      (continuation (v / 4096) :: continuation (v / 64) :: continuation v :: rest) =
        (some (Char.ofNat v), 4) := by
  have hfirst : ∀ k < 5, ¬ UInt8.ofNat (k + 240) < 0x80 ∧
      sequenceShape? (UInt8.ofNat (k + 240)) =
        some (3, if k = 0 then 0x90 else 0x80, if k = 4 then 0x8F else 0xBF) ∧
      leadingBits 3 (UInt8.ofNat (k + 240)) = k := by decide
  obtain ⟨hb, hshape, hlead⟩ := hfirst (v / 262144 % 8) (by omega)
  have hmore : takeContinuation 3 (if v / 262144 % 8 = 0 then 0x90 else 0x80)
      (if v / 262144 % 8 = 4 then 0x8F else 0xBF)
      (continuation (v / 4096) :: continuation (v / 64) :: continuation v :: rest) =
        [continuation (v / 4096), continuation (v / 64), continuation v] := by
    rw [takeContinuation_continuation, takeContinuation_of_any, takeContinuation_of_any,
      takeContinuation_zero]
    · split_ifs
      · show 144 ≤ _
        omega
      · exact Nat.le_add_left _ _
    · split_ifs
      · show _ ≤ 143
        omega
      · show _ ≤ 191
        omega
  rw [nextChar_of_shape hb hshape hmore rfl, hlead]
  simp only [List.foldl_cons, List.foldl_nil, toNat_continuation_mod]
  congr 3
  omega

end Sizes

/-- The first character of its bytes is the character, whatever follows. -/
theorem nextChar_utf8EncodeChar (c : Char) (rest : List UInt8) :
    ∃ b more, String.utf8EncodeChar c = b :: more ∧
      nextChar b (more ++ rest) = (some c, more.length + 1) := by
  have hself : Char.ofNat c.val.toNat = c := Char.ofNat_toNat c
  have hvalid : c.val.toNat < 0xD800 ∨ 0xDFFF < c.val.toNat ∧ c.val.toNat < 0x110000 := c.valid
  generalize hv : c.val.toNat = v at hself hvalid
  rw [← hself]
  by_cases h7 : v ≤ 127
  · have hc : c.toNat < 0x80 := by
      rw [← hv] at h7
      exact Nat.lt_succ_of_le h7
    have hb : UInt8.ofNat v < 0x80 := by
      rw [UInt8.lt_iff_toNat_lt, UInt8.toNat_ofNat', Nat.mod_eq_of_lt (by omega)]
      exact Nat.lt_succ_of_le h7
    refine ⟨UInt8.ofNat v, [], ?_, ?_⟩
    · rw [hself, utf8EncodeChar_of_lt hc]
      exact congrArg (fun n => [UInt8.ofNat n]) hv
    · have hnat : (UInt8.ofNat v).toNat = v := by
        rw [UInt8.toNat_ofNat']
        omega
      simp only [nextChar, if_pos hb, hnat, List.length_nil]
  rw [hself]
  by_cases h11 : v ≤ 2047
  · exact ⟨_, [continuation v], by simp only [String.utf8EncodeChar, hv, if_neg h7, if_pos h11]; rfl,
      hself ▸ nextChar_two rest (by omega) h11⟩
  by_cases h16 : v ≤ 65535
  · exact ⟨_, [continuation (v / 64), continuation v],
      by simp only [String.utf8EncodeChar, hv, if_neg h7, if_neg h11, if_pos h16]; rfl,
      hself ▸ nextChar_three rest (by omega) h16 (by omega)⟩
  · exact ⟨_, [continuation (v / 4096), continuation (v / 64), continuation v],
      by simp only [String.utf8EncodeChar, hv, if_neg h7, if_neg h11, if_neg h16]; rfl,
      hself ▸ nextChar_four rest (by omega) (by omega)⟩

/-! ## Texts -/

theorem decodeUtf8_utf8 {fuel : Nat} (cs : List Char) (hfuel : (utf8 cs).length ≤ fuel) :
    decodeUtf8 fuel (utf8 cs) = cs.map some := by
  induction cs generalizing fuel with
  | nil => cases fuel <;> rfl
  | cons c cs ih =>
    obtain ⟨b, more, hbytes, hnext⟩ := nextChar_utf8EncodeChar c (utf8 cs)
    have hsplit : utf8 (c :: cs) = b :: (more ++ utf8 cs) := by
      rw [utf8, List.flatMap_cons, hbytes]
      rfl
    rw [hsplit, List.length_cons, List.length_append] at hfuel
    obtain ⟨fuel, rfl⟩ := Nat.exists_eq_add_one_of_ne_zero (Nat.ne_zero_of_lt hfuel)
    rw [hsplit, decodeUtf8, hnext]
    simp only [Nat.add_sub_cancel, List.drop_left, List.map_cons]
    rw [ih (by omega)]

theorem ofUtf8Lossy_utf8 (cs : List Char) : ofUtf8Lossy (utf8 cs) = cs := by
  rw [ofUtf8Lossy, decodeUtf8_utf8 cs (Nat.le_refl _), List.map_map]
  exact List.map_id _

end SessionGateway.Text
