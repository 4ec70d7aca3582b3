import SessionGateway.Proofs.Json.Inversion

/-! Passing over a number or an escape ends where reading it ends. -/

namespace SessionGateway.JsonText

/-! ## Numbers -/

theorem skipWhole_of_readWhole {cs whole behind : List Char}
    (h : readWhole cs = .ok (whole, behind)) : skipWhole cs = .ok behind := by
  unfold readWhole at h
  split at h
  · contradiction
  · split_ifs at h with hdigit hzero
    obtain ⟨-, rfl⟩ := Prod.mk.inj (Except.ok.inj h)
    simp only [skipWhole]
    rw [if_neg hdigit, if_neg hzero]

theorem skipFraction_of_readFraction {cs part behind : List Char}
    (h : readFraction cs = .ok (part, behind)) : skipFraction cs = .ok behind := by
  unfold readFraction at h
  split at h
  · split_ifs at h with hdigits
    obtain ⟨-, rfl⟩ := Prod.mk.inj (Except.ok.inj h)
    simp only [skipFraction]
    rw [if_neg hdigits]
  · rename_i hpoint
    obtain ⟨-, rfl⟩ := Prod.mk.inj (Except.ok.inj h)
    unfold skipFraction
    split
    · exact absurd rfl (hpoint _)
    · rfl

theorem skipExponent_of_readExponent {isZero : Bool} {cs rest : List Char} {exponent : Option Int}
    (h : readExponent isZero cs = .ok (exponent, rest)) : skipExponent cs = .ok rest := by
  unfold readExponent at h
  unfold skipExponent
  split at h
  · obtain ⟨-, rfl⟩ := Prod.mk.inj (Except.ok.inj h)
    rfl
  · rename_i mark tail
    by_cases hmark : (!isExponentMark mark) = true
    · rw [if_pos hmark] at h
      obtain ⟨-, rfl⟩ := Prod.mk.inj (Except.ok.inj h)
      exact if_pos hmark
    · rw [if_neg hmark] at h
      dsimp only at h ⊢
      rw [if_neg hmark]
      generalize hunsigned :
        (if decide (tail.head? = some '-') || decide (tail.head? = some '+') then tail.drop 1
          else tail) = unsigned at h ⊢
      by_cases hdigits : unsigned.takeWhile Char.isDigit = []
      · rw [if_pos hdigits] at h
        split at h <;> contradiction
      · rw [if_neg hdigits] at h ⊢
        split at h
        · contradiction
        · split at h
          · by_cases hsmall : (isZero || decide (tail.head? = some '-')) = true
            · rw [if_pos hsmall] at h
              obtain ⟨-, rfl⟩ := Prod.mk.inj (Except.ok.inj h)
              rfl
            · rw [if_neg hsmall] at h
              contradiction
          · obtain ⟨-, rfl⟩ := Prod.mk.inj (Except.ok.inj h)
            rfl

theorem skipNumber_of_readNumber {negative : Bool} {cs rest : List Char} {v : Json}
    (h : readNumber negative cs = .ok (v, rest)) : skipNumber cs = .ok rest := by
  obtain ⟨-, whole, behind, part, back, isZero, exponent, hwhole, hpart, hexponent⟩ :=
    exists_of_readNumber h
  unfold skipNumber
  rw [skipWhole_of_readWhole hwhole]
  show (skipFraction behind >>= skipExponent) = _
  rw [skipFraction_of_readFraction hpart]
  exact skipExponent_of_readExponent hexponent

/-! ## Escapes -/

/-- A pair of surrogates is passed over as two escapes. -/
theorem skipEscape_of_readEscape {cs rest : List Char} {d : Char}
    (h : readEscape cs = .ok (d, rest)) :
    skipEscape cs = .ok rest ∨
      ∃ tail, skipEscape cs = .ok ('\\' :: tail) ∧ skipEscape tail = .ok rest := by
  unfold readEscape at h
  split at h
  · contradiction
  · rename_i c tail
    split at h
    · rename_i e hsimple
      obtain ⟨-, rfl⟩ := Prod.mk.inj (Except.ok.inj h)
      left
      simp only [skipEscape, hsimple, Option.isSome_some, if_true]
    · rename_i hsimple
      split_ifs at h with hu
      · obtain ⟨⟨n, behind⟩, hhex, h⟩ := bind_eq_ok_iff.mp h
        have hfirst : skipEscape (c :: tail) = .ok behind := by
          simp only [skipEscape, hu, hhex]
          rfl
        rw [hfirst]
        dsimp only at h
        split_ifs at h with hlow hhigh
        · right
          unfold readLowSurrogate at h
          split at h
          · contradiction
          · contradiction
          · rename_i low
            obtain ⟨⟨m, back⟩, hhex, h⟩ := bind_eq_ok_iff.mp h
            dsimp only at h
            split_ifs at h
            obtain ⟨-, rfl⟩ := Prod.mk.inj (Except.ok.inj h)
            refine ⟨'u' :: low, rfl, ?_⟩
            simp only [skipEscape, hhex]
            rfl
          · contradiction
          · contradiction
        · left
          obtain ⟨-, rfl⟩ := Prod.mk.inj (Except.ok.inj h)
          rfl

end SessionGateway.JsonText
