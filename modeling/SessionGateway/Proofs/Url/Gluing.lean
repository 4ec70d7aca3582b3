import Mathlib.Data.List.TakeWhile
import SessionGateway.Proofs.Url.BlankEnd
import SessionGateway.Url.Parser

/-! Texts that a path is put behind. What the text says of scheme, user, host and port stays what
it is, unless it says nothing of a host; where it ends in its path, the other path goes on from
there. -/

namespace SessionGateway.Url

variable {c : Char} {cs t : List Char} {base : String}

/-- A path as it is put behind a text. -/
def IsTail (t : List Char) : Prop :=
  ∃ more, t = '/' :: more ∧ ∀ c ∈ more, 0x20 < c.toNat ∧ endsPath c = false

theorem IsTail.high (ht : IsTail t) : ∀ c ∈ t, 0x20 < c.toNat := by
  obtain ⟨more, rfl, hmore⟩ := ht
  intro c hc
  rcases List.mem_cons.mp hc with rfl | hc
  · decide
  · exact (hmore c hc).1

/-! ## Blanks -/

/-- What is left of a text that something is put behind. -/
def stem (base : String) : List Char :=
  (base.toList.dropWhile (·.toNat ≤ 0x20)).filter fun c => c ≠ '\t' ∧ c ≠ '\n' ∧ c ≠ '\r'

theorem filter_of_high (ht : ∀ c ∈ t, 0x20 < c.toNat) :
    t.filter (fun c => c ≠ '\t' ∧ c ≠ '\n' ∧ c ≠ '\r') = t := by
  refine List.filter_eq_self.mpr fun c hc => ?_
  have hhigh := ht c hc
  have hne (d : Char) (hd : d.toNat ≤ 0x20) : c ≠ d := by
    rintro rfl
    exact Nat.not_lt_of_le hd hhigh
  simp [hne]

theorem dropWhile_low_append (hne : t ≠ []) (ht : ∀ c ∈ t, 0x20 < c.toNat) (cs : List Char) :
    (cs ++ t).dropWhile (·.toNat ≤ 0x20) = cs.dropWhile (·.toNat ≤ 0x20) ++ t := by
  rw [List.dropWhile_append]
  split
  next hempty =>
    rw [List.isEmpty_iff.mp hempty, List.nil_append]
    cases t with
    | nil => exact absurd rfl hne
    | cons c t =>
      have hc : ¬ c.toNat ≤ 0x20 := Nat.not_le_of_lt (ht c List.mem_cons_self)
      simp [hc]
  next => rfl

theorem cleaned_append (hne : t ≠ []) (ht : ∀ c ∈ t, 0x20 < c.toNat) :
    cleaned (base ++ String.ofList t) = stem base ++ t := by
  have hback (cs : List Char) :
      ((cs ++ t).reverse.dropWhile (·.toNat ≤ 0x20)).reverse = cs ++ t := by
    obtain ⟨front, last, rfl⟩ := (List.eq_nil_or_concat t).resolve_left hne
    rw [List.concat_eq_append] at ht ⊢
    have hhigh : ¬ last.toNat ≤ 0x20 := Nat.not_le_of_lt (ht last (by simp))
    simp [← List.append_assoc, hhigh]
  rw [cleaned, Text.trimBoth, String.toList_append, String.toList_ofList,
    dropWhile_low_append hne ht, hback, List.filter_append, filter_of_high ht, stem]

/-- Blanks at the end of a text come to stand inside. -/
theorem stem_eq (base : String) : ∃ w, (∀ c ∈ w, IsLow c) ∧ stem base = cleaned base ++ w ∧
    ((∀ c ∈ base.toList.getLast?, ¬ IsLow c) → w = []) := by
  let front := base.toList.dropWhile (·.toNat ≤ 0x20)
  have hsplit : front = (front.reverse.dropWhile (·.toNat ≤ 0x20)).reverse ++
      (front.reverse.takeWhile (·.toNat ≤ 0x20)).reverse := by
    rw [← List.reverse_append, List.takeWhile_append_dropWhile, List.reverse_reverse]
  refine ⟨(front.reverse.takeWhile (·.toNat ≤ 0x20)).reverse.filter
    fun c => c ≠ '\t' ∧ c ≠ '\n' ∧ c ≠ '\r', fun c hc => ?_, ?_, fun hhigh => ?_⟩
  · have hmem := List.mem_reverse.mp (List.mem_filter.mp hc).1
    simpa [IsLow] using List.mem_takeWhile_imp hmem
  · rw [cleaned, Text.trimBoth, ← List.filter_append, ← hsplit, stem]
  · cases hrev : front.reverse with
    | nil => rfl
    | cons last rest =>
      have hlast : last ∈ base.toList.getLast? := by
        rw [← List.takeWhile_append_dropWhile (p := (·.toNat ≤ 0x20)) (l := base.toList)]
        have hfront : front = rest.reverse ++ [last] := by simpa using congrArg List.reverse hrev
        rw [show base.toList.dropWhile (·.toNat ≤ 0x20) = front from rfl, hfront]
        simp
      have hnot : ¬ last.toNat ≤ 0x20 := hhigh last hlast
      simp [hnot]

/-! ## Schemes -/

/-- A text that a predicate stops at is no part of what it takes. -/
theorem takeWhile_append_of_head? {α : Type} {p : α → Bool} {t : List α}
    (ht : ∀ c ∈ t.head?, p c = false) (cs : List α) :
    (cs ++ t).takeWhile p = cs.takeWhile p ∧ (cs ++ t).dropWhile p = cs.dropWhile p ++ t := by
  have hstop : t.takeWhile p = [] ∧ t.dropWhile p = t := by
    cases t with
    | nil => exact ⟨rfl, rfl⟩
    | cons c t => simp [ht c rfl]
  induction cs with
  | nil => exact hstop
  | cons c cs ih =>
    cases hc : p c <;> simp [hc, ih]

theorem takeWhile_append_of_dropWhile {p : Char → Bool} (hcs : cs.dropWhile p ≠ [])
    (t : List Char) :
    (cs ++ t).takeWhile p = cs.takeWhile p ∧ (cs ++ t).dropWhile p = cs.dropWhile p ++ t := by
  induction cs with
  | nil => exact absurd rfl hcs
  | cons c cs ih =>
    cases hc : p c with
    | false => simp [hc]
    | true =>
      rw [List.dropWhile_cons_of_pos hc] at hcs
      simp [hc, ih hcs]

theorem splitScheme?_append (ht : ∀ c ∈ t.head?, isSchemeChar c = false ∧ c ≠ ':') :
    splitScheme? (cs ++ t) = (splitScheme? cs).map fun p => (p.1, p.2 ++ t) := by
  obtain ⟨htake, hdrop⟩ := takeWhile_append_of_head? (fun c hc => (ht c hc).1) cs
  unfold splitScheme?
  rw [htake, hdrop]
  cases cs.takeWhile isSchemeChar with
  | nil => rfl
  | cons c name =>
    cases cs.dropWhile isSchemeChar with
    | nil =>
      cases t with
      | nil => rfl
      | cons d t =>
        have hd := (ht d rfl).2
        simp [hd]
    | cons d rest =>
      by_cases hd : d = ':'
      · subst hd
        simp only [List.cons_append]
        split <;> rfl
      · simp [hd]

theorem scheme_finish (u : Url) (cs : List Char) : (finish u cs).scheme = u.scheme := by
  simp only [finish, settleFile]
  split <;> rfl

/-- What an authority names has its scheme and a host, and nothing of a path. -/
theorem readPlace?_eq_some {scheme : String} {v : Url} (h : readPlace? scheme cs = some v) :
    v.scheme = scheme ∧ v.host.isSome = true := by
  simp only [readPlace?] at h
  split at h
  · contradiction
  obtain ⟨host, -, h⟩ := Option.bind_eq_some_iff.mp h
  obtain ⟨port, -, h⟩ := Option.bind_eq_some_iff.mp h
  obtain rfl := Option.some.inj h
  exact ⟨rfl, rfl⟩

theorem scheme_readAuthority? {scheme : String} {u : Url}
    (h : readAuthority? scheme cs = some u) : u.scheme = scheme := by
  obtain ⟨v, hv, rfl⟩ := Option.map_eq_some_iff.mp h
  rw [scheme_finish, (readPlace?_eq_some hv).1]

theorem scheme_readFileHost? {u : Url} (h : readFileHost? cs = some u) : u.scheme = "file" := by
  have hfile (host : Option Host) (cs : List Char) :
      (finish { blank "file" with host := host } cs).scheme = "file" := scheme_finish _ _
  simp only [readFileHost?] at h
  split at h
  · obtain rfl := Option.some.inj h
    exact hfile none _
  split at h
  · obtain rfl := Option.some.inj h
    exact hfile none _
  · obtain ⟨host, -, h⟩ := Option.bind_eq_some_iff.mp h
    obtain rfl := Option.some.inj h
    split
    · exact hfile none _
    · exact hfile (some host) _

theorem scheme_readAfterScheme? {scheme : String} {u : Url}
    (h : readAfterScheme? none scheme cs = some u) : u.scheme = scheme := by
  have hblank (cs : List Char) : (finish (blank scheme) cs).scheme = scheme := scheme_finish _ _
  simp only [readAfterScheme?] at h
  split at h
  next hfile =>
    split at h
    · split at h
      · rw [hfile]
        exact scheme_readFileHost? h
      · obtain rfl := Option.some.inj h
        exact hblank _
    · obtain rfl := Option.some.inj h
      exact hblank _
  split at h
  · exact scheme_readAuthority? h
  split at h
  · exact scheme_readAuthority? h
  · obtain rfl := Option.some.inj h
    exact hblank _
  · obtain rfl := Option.some.inj h
    rfl

theorem ofText?_eq (text : String) : ofText? text =
    (splitScheme? (cleaned text)).bind fun p => readAfterScheme? none p.1 p.2 := by
  simp only [ofText?, read?]
  cases splitScheme? (cleaned text) <;> rfl

theorem isSchemeChar_of_isLow (h : IsLow c) : isSchemeChar c = false ∧ c ≠ ':' :=
  h.of_forall (p := fun d => isSchemeChar d = false ∧ d ≠ ':') (by decide)

/-- The scheme of a text, with slashes behind it or without, is that of its stem. -/
theorem split_stem (base : String) (n : Nat) :
    (splitScheme? (stem base) = none ∧
      splitScheme? (cleaned (base ++ String.ofList (List.replicate n '/'))) = none) ∨
    ∃ scheme r w, splitScheme? (stem base) = some (scheme, r ++ w) ∧
      splitScheme? (cleaned (base ++ String.ofList (List.replicate n '/'))) =
        some (scheme, r ++ List.replicate n '/') ∧
      (∀ c ∈ w, IsLow c) ∧ (n = 0 ∨ w = []) ∧
      ((∀ c ∈ (base ++ String.ofList (List.replicate n '/')).toList.getLast?, ¬ IsLow c) →
        w = []) := by
  cases n with
  | zero =>
    obtain ⟨w, hw, hstem, hhigh⟩ := stem_eq base
    have happend : splitScheme? (cleaned base ++ w) =
        (splitScheme? (cleaned base)).map fun p => (p.1, p.2 ++ w) :=
      splitScheme?_append fun c hc => isSchemeChar_of_isLow (hw c (List.mem_of_mem_head? hc))
    have hnone : base ++ String.ofList (List.replicate 0 '/') = base := String.append_empty
    rw [hnone, hstem, happend]
    cases splitScheme? (cleaned base) with
    | none => exact .inl ⟨rfl, rfl⟩
    | some p =>
      obtain ⟨scheme, r⟩ := p
      exact .inr ⟨scheme, r, w, rfl, by simp, hw, .inl rfl, hhigh⟩
  | succ n =>
    have hslashes : ∀ c ∈ List.replicate (n + 1) '/', 0x20 < c.toNat := by
      intro c hc
      rw [List.eq_of_mem_replicate hc]
      decide
    have happend : splitScheme? (stem base ++ List.replicate (n + 1) '/') =
        (splitScheme? (stem base)).map fun p => (p.1, p.2 ++ List.replicate (n + 1) '/') :=
      splitScheme?_append (by simp [List.replicate_succ]; decide)
    rw [cleaned_append (by simp) hslashes, happend]
    cases splitScheme? (stem base) with
    | none => exact .inl ⟨rfl, rfl⟩
    | some p =>
      obtain ⟨scheme, r⟩ := p
      exact .inr ⟨scheme, r, [], by simp, rfl, by simp, .inr rfl, fun _ => rfl⟩

/-- What a path is put behind is read as its stem, which goes on with the path. -/
theorem ofText?_append (ht : IsTail t) : ofText? (base ++ String.ofList t) =
    (splitScheme? (stem base)).bind fun p => readAfterScheme? none p.1 (p.2 ++ t) := by
  have hhigh := ht.high
  obtain ⟨more, rfl, -⟩ := ht
  have hslash : isSchemeChar '/' = false ∧ '/' ≠ ':' := by decide
  rw [ofText?_eq, cleaned_append (by simp) hhigh, splitScheme?_append (by simp [hslash])]
  cases splitScheme? (stem base) <;> rfl

/-! ## Places -/

/-- The host and the port of an authority go on with a character that is no at sign. -/
theorem splitUserinfo_concat (hc : c ≠ '@') (cs : List Char) :
    (splitUserinfo (cs ++ [c])).2 = (splitUserinfo cs).2 ++ [c] := by
  simp only [splitUserinfo]
  have hcontains : (cs ++ [c]).contains '@' = cs.contains '@' := by
    simp [hc.symm]
  rw [hcontains]
  split <;> simp [hc]

/-- A character at the end goes to the port if there is one, and else to the host. -/
theorem splitPort_concat (hc : c ≠ ':') (inside : Bool) (cs : List Char) :
    splitPort inside (cs ++ [c]) = ((splitPort inside cs).1 ++ [c], []) ∨
    ∃ digits, splitPort inside (cs ++ [c]) =
      ((splitPort inside cs).1, ':' :: (digits ++ [c])) := by
  induction cs generalizing inside with
  | nil =>
    left
    simp [splitPort, hc]
  | cons d cs ih =>
    simp only [List.cons_append, splitPort]
    split
    next hd =>
      obtain ⟨rfl, -⟩ : d = ':' ∧ _ := by simpa using hd
      exact .inr ⟨cs, rfl⟩
    next =>
      rcases ih ((inside || d = '[') && d ≠ ']') with hhost | ⟨digits, hport⟩
      · left
        rw [hhost]
        rfl
      · right
        rw [hport]
        exact ⟨digits, rfl⟩

theorem endsAuthority_of_isLow (h : IsLow c) : endsAuthority true c = false :=
  h.of_forall (p := (Url.endsAuthority true · = false)) (by decide)

/-- No authority of the web ends in a blank. -/
theorem readPlace?_concat (h : IsLow c) {scheme : String} (hs : isSpecialScheme scheme = true)
    (cs : List Char) : readPlace? scheme (cs ++ [c]) = none := by
  have hat : c ≠ '@' := h.ne (by decide)
  have hcolon : c ≠ ':' := h.ne (by decide)
  have hdigit : c.isDigit = false := h.of_forall (p := (·.isDigit = false)) (by decide)
  simp only [readPlace?, splitUserinfo_concat hat]
  split
  · rfl
  rcases splitPort_concat hcolon false (splitUserinfo cs).2 with hhost | ⟨digits, hport⟩
  · simp [hhost, readHost?, hs, Host.ofChars?_concat h]
  · have hnone : readPort? scheme (':' :: (digits ++ [c])) = none := by
      simp [readPort?, hdigit]
    cases hread : readHost? (isSpecialScheme scheme) (splitPort false (splitUserinfo cs).2).1 <;>
      simp [hport, hread, hnone]

/-- A text with a scheme and nothing more than slashes of both kinds. -/
def IsBareScheme (scheme text : String) : Prop :=
  ∃ rest, splitScheme? (cleaned text) = some (scheme, rest) ∧ ∀ c ∈ rest, isSlash true c = true

theorem readPlace?_nil {scheme : String} (hs : isSpecialScheme scheme = true) :
    readPlace? scheme [] = none := by
  have hempty : Host.ofChars? [] = none := rfl
  simp [readPlace?, splitUserinfo, splitPort, readHost?, hs, hempty]

theorem readAuthority?_eq {scheme : String} (hs : isSpecialScheme scheme = true)
    (cs : List Char) : readAuthority? scheme cs =
      (readPlace? scheme (cs.takeWhile fun c => !endsAuthority true c)).map
        (finish · (cs.dropWhile fun c => !endsAuthority true c)) := by
  simp only [readAuthority?, hs]

/-- An authority that is over keeps its place, whatever follows. -/
theorem readAuthority?_append {scheme : String} (hs : isSpecialScheme scheme = true)
    {more : List Char} (h : cs.dropWhile (fun c => !endsAuthority true c) ≠ [] ∨
      ∀ c ∈ more.head?, endsAuthority true c = true) :
    readAuthority? scheme (cs ++ more) =
      (readPlace? scheme (cs.takeWhile fun c => !endsAuthority true c)).map
        (finish · (cs.dropWhile (fun c => !endsAuthority true c) ++ more)) := by
  rw [readAuthority?_eq hs]
  rcases h with hend | hmore
  · rw [(takeWhile_append_of_dropWhile hend more).1, (takeWhile_append_of_dropWhile hend more).2]
  · have hstop : ∀ c ∈ more.head?, (!endsAuthority true c) = false := fun c hc => by
      rw [hmore c hc]
      rfl
    rw [(takeWhile_append_of_head? hstop cs).1, (takeWhile_append_of_head? hstop cs).2]

/-- Blanks at the end of the authority are part of it, and no place has them. -/
theorem readAuthority?_of_blanks {scheme : String} (hs : isSpecialScheme scheme = true)
    {authority w : List Char} (hauthority : ∀ c ∈ authority, endsAuthority true c = false)
    (hw : ∀ c ∈ w, IsLow c) (hne : w ≠ []) (ht : IsTail t) :
    readAuthority? scheme (authority ++ (w ++ t)) = none := by
  have hall : ∀ c ∈ authority ++ w, (!endsAuthority true c) = true := by
    intro c hc
    rcases List.mem_append.mp hc with hc | hc
    · simp [hauthority c hc]
    · simp [endsAuthority_of_isLow (hw c hc)]
  obtain ⟨more, rfl, -⟩ := ht
  have htake : (authority ++ w ++ '/' :: more).takeWhile (fun c => !endsAuthority true c) =
      authority ++ w := by
    rw [List.takeWhile_append_of_pos hall]
    simp [endsAuthority, isSlash]
  rw [← List.append_assoc, readAuthority?_eq hs, htake]
  obtain ⟨front, last, rfl⟩ := (List.eq_nil_or_concat w).resolve_left hne
  rw [List.concat_eq_append, ← List.append_assoc, readPlace?_concat (hw last (by simp)) hs]
  rfl

theorem readAfterScheme?_of_web {scheme : String} (hweb : scheme = "http" ∨ scheme = "https")
    (cs : List Char) : readAfterScheme? none scheme cs =
      readAuthority? scheme (cs.dropWhile (isSlash true)) := by
  rcases hweb with rfl | rfl <;> rfl

/-- A path right behind a scheme of the web and slashes is read as an authority and what follows. -/
theorem ofText?_behind {scheme : String} (hweb : scheme = "http" ∨ scheme = "https")
    (ht : IsTail t) : ofText? (scheme ++ ":/" ++ String.ofList t) =
      readAuthority? scheme (t.dropWhile (isSlash true)) := by
  have hsplit : splitScheme? (stem (scheme ++ ":/")) = some (scheme, ['/']) := by
    rcases hweb with rfl | rfl <;> decide
  rw [ofText?_append ht, hsplit, Option.bind_some, readAfterScheme?_of_web hweb]
  rfl

/-- A scheme of the web with slashes alone, and what comes behind. -/
theorem readAfterScheme?_bare {scheme : String} (hweb : scheme = "http" ∨ scheme = "https")
    {r : List Char} (hr : ∀ c ∈ r, isSlash true c = true) (more : List Char) :
    readAfterScheme? none scheme (r ++ more) =
      readAuthority? scheme (more.dropWhile (isSlash true)) := by
  rw [readAfterScheme?_of_web hweb, List.dropWhile_append_of_pos hr]

theorem readAfterScheme?_slashes {scheme : String} (hweb : scheme = "http" ∨ scheme = "https")
    {r : List Char} (hr : ∀ c ∈ r, isSlash true c = true) :
    readAfterScheme? none scheme r = none := by
  have hs : isSpecialScheme scheme = true := by rcases hweb with rfl | rfl <;> rfl
  rw [readAfterScheme?_of_web hweb, List.dropWhile_eq_nil_iff.mpr hr, readAuthority?_eq hs,
    List.takeWhile_nil, readPlace?_nil hs]
  rfl

/-- What follows a scheme of the web, with slashes or with a path behind it. -/
theorem readAfterScheme?_glued {scheme : String} (hweb : scheme = "http" ∨ scheme = "https")
    (r : List Char) {w : List Char} (hw : ∀ c ∈ w, IsLow c) (n : Nat) :
    let place (more : List Char) := readAfterScheme? none scheme (r ++ more)
    (∀ t, IsTail t → place (w ++ t) = none) ∨
    (w = [] ∧ ∀ c ∈ r, isSlash true c = true) ∨
    ∃ v q, v.scheme = scheme ∧ v.host.isSome = true ∧
      (∀ c ∈ q.head?, endsAuthority true c = true) ∧ (q = [] → w = []) ∧
      place (List.replicate n '/') = some (finish v (q ++ List.replicate n '/')) ∧
      ∀ t, IsTail t → place (w ++ t) = some (finish v (q ++ (w ++ t))) := by
  intro place
  have hs : isSpecialScheme scheme = true := by rcases hweb with rfl | rfl <;> rfl
  by_cases hbare : r.dropWhile (isSlash true) = []
  · have hall := List.dropWhile_eq_nil_iff.mp hbare
    cases w with
    | nil => exact .inr (.inl ⟨rfl, hall⟩)
    | cons d w =>
      refine .inl fun t ht => ?_
      have hd : isSlash true d = false :=
        (Bool.or_eq_false_iff.mp (endsAuthority_of_isLow (hw d List.mem_cons_self))).1
      have hkept : (d :: w ++ t).dropWhile (isSlash true) = [] ++ (d :: w ++ t) :=
        List.dropWhile_cons_of_neg (by simp [hd])
      have hplace : place (d :: w ++ t) = _ := readAfterScheme?_bare hweb hall _
      rw [hplace, hkept]
      exact readAuthority?_of_blanks hs (List.forall_mem_nil _) hw (by simp) ht
  -- behind the slashes an authority begins, which the blanks go on with if nothing has ended it
  let inside (c : Char) : Bool := !endsAuthority true c
  let e := r.dropWhile (isSlash true)
  have hplace (more : List Char) : place more = readAuthority? scheme (e ++ more) := by
    rw [← (takeWhile_append_of_dropWhile hbare more).2]
    exact readAfterScheme?_of_web hweb _
  by_cases hopen : e.dropWhile inside = [] ∧ w ≠ []
  · refine .inl fun t ht => ?_
    rw [hplace]
    refine readAuthority?_of_blanks hs (fun c hc => ?_) hw hopen.2 ht
    simpa [inside] using List.dropWhile_eq_nil_iff.mp hopen.1 c hc
  have hclosed : e.dropWhile inside ≠ [] ∨ w = [] :=
    (not_and_or.mp hopen).imp_right not_not.mp
  have hslashes : ∀ c ∈ (List.replicate n '/').head?, endsAuthority true c = true := by
    intro c hc
    rw [List.eq_of_mem_replicate (List.mem_of_mem_head? hc)]
    rfl
  have htail (t : List Char) (ht : IsTail t) (hnil : w = []) :
      ∀ c ∈ (w ++ t).head?, endsAuthority true c = true := by
    obtain ⟨more, rfl, -⟩ := ht
    intro c hc
    rw [hnil] at hc
    obtain rfl := Option.some.inj hc
    rfl
  have hread : place (List.replicate n '/') = _ := (hplace _).trans
    (readAuthority?_append hs (.inr hslashes))
  have hmore (t : List Char) (ht : IsTail t) : place (w ++ t) = _ := (hplace _).trans
    (readAuthority?_append hs (hclosed.imp_right (htail t ht)))
  cases hv : readPlace? scheme (e.takeWhile inside) with
  | none =>
    refine .inl fun t ht => ?_
    rw [hmore t ht, hv]
    rfl
  | some v =>
    obtain ⟨hscheme, hhost⟩ := readPlace?_eq_some hv
    refine .inr (.inr ⟨v, e.dropWhile inside, hscheme, hhost, fun c hc => ?_,
      fun hnil => hclosed.resolve_left (not_not_intro hnil), ?_, fun t ht => ?_⟩)
    · have hstop := List.head?_dropWhile_not inside e
      rw [Option.mem_def.mp hc] at hstop
      simpa [inside] using hstop
    · rw [hread, hv]
      rfl
    · rw [hmore t ht, hv]
      rfl

/-- A text with so many slashes behind it stands for a URL of the web at the place `v`, with `q`
behind it and the slashes. With a path in place of the slashes, `w` comes to stand before the path:
blanks, which do not count at the end of the text. -/
structure StandsAt (base : String) (n : Nat) (v : Url) (q w : List Char) : Prop where
  web : v.scheme = "http" ∨ v.scheme = "https"
  host : v.host.isSome = true
  ends : ∀ c ∈ q.head?, endsAuthority true c = true
  low : ∀ c ∈ w, IsLow c
  slashes : n = 0 ∨ w = []
  beyond : q = [] → w = []
  high : (∀ c ∈ (base ++ String.ofList (List.replicate n '/')).toList.getLast?, ¬ IsLow c) → w = []
  alone : ofText? (base ++ String.ofList (List.replicate n '/')) =
    some (finish v (q ++ List.replicate n '/'))
  glued : ∀ t, IsTail t → ofText? (base ++ String.ofList t) = some (finish v (q ++ (w ++ t)))

/-- A text that a path is put behind: it gives no place of the web, or it says no more than a
scheme, or the path comes after the place that it names by itself. -/
theorem ofText?_glued (base : String) (n : Nat) :
    let text := base ++ String.ofList (List.replicate n '/')
    (∀ t, IsTail t → ∀ u, ofText? (base ++ String.ofList t) = some u →
      u.scheme ≠ "http" ∧ u.scheme ≠ "https") ∨
    (∃ scheme, (scheme = "http" ∨ scheme = "https") ∧ IsBareScheme scheme text ∧
      ofText? text = none) ∨
    ∃ v q w, StandsAt base n v q w := by
  intro text
  rcases split_stem base n with ⟨hstem, -⟩ | ⟨scheme, r, w, hstem, htext, hw, hn, hlast⟩
  · left
    intro t ht u hu
    simp [ofText?_append ht, hstem] at hu
  have hglued (t : List Char) (ht : IsTail t) :
      ofText? (base ++ String.ofList t) = readAfterScheme? none scheme (r ++ (w ++ t)) := by
    rw [ofText?_append ht, hstem, Option.bind_some, List.append_assoc]
  have halone : ofText? text = readAfterScheme? none scheme (r ++ List.replicate n '/') := by
    rw [ofText?_eq, htext, Option.bind_some]
  by_cases hweb : scheme = "http" ∨ scheme = "https"
  · rcases readAfterScheme?_glued hweb r hw n with hnone | ⟨rfl, hall⟩ |
      ⟨v, q, hscheme, hhost, hq, hblank, hfirst, hmore⟩
    · left
      intro t ht u hu
      rw [hglued t ht] at hu
      exact absurd (hu.symm.trans (hnone t ht)) (by simp)
    · have hslashes : ∀ c ∈ r ++ List.replicate n '/', isSlash true c = true := by
        intro c hc
        rcases List.mem_append.mp hc with hc | hc
        · exact hall c hc
        · rw [List.eq_of_mem_replicate hc]
          rfl
      exact .inr (.inl ⟨scheme, hweb, ⟨_, htext, hslashes⟩,
        halone.trans (readAfterScheme?_slashes hweb hslashes)⟩)
    · exact .inr (.inr ⟨v, q, w, {
        web := hscheme ▸ hweb
        host := hhost
        ends := hq
        low := hw
        slashes := hn
        beyond := hblank
        high := hlast
        alone := halone.trans hfirst
        glued := fun t ht => (hglued t ht).trans (hmore t ht) }⟩)
  · left
    intro t ht u hu
    rw [hglued t ht] at hu
    rw [scheme_readAfterScheme? hu]
    exact not_or.mp hweb

end SessionGateway.Url
