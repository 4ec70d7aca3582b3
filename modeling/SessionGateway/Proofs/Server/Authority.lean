import SessionGateway.Http.Proxy
import SessionGateway.Proofs.Json.Scalar
import SessionGateway.Proofs.Url.PlainPath

/-! The authority of a server: a host whose text stands for it, and a port. Whatever the kind of the
host, the two are told apart again, and a request can name them. -/

namespace SessionGateway

open Url (isUnreserved of_isUnreserved)

theorem isUnreserved_of_isDigit {c : Char} (hc : c.isDigit = true) : isUnreserved c = true := by
  simp [isUnreserved, Char.isAlphanum, hc]

theorem isUnreserved_of_mem_hexText {n : Nat} {c : Char} (hc : c ∈ Text.hexText n) :
    isUnreserved c = true := by
  have hdigit : ∀ d < 16, isUnreserved (Nat.digitChar d) = true := by decide
  rw [Text.hexText] at hc
  induction n using Nat.strongRecOn with
  | ind n ih =>
    rcases Nat.lt_or_ge n 16 with hlt | hge
    · rw [Nat.toDigits_of_lt_base hlt, List.mem_singleton] at hc
      rw [hc]
      exact hdigit n hlt
    · rw [Nat.toDigits_of_base_le (by decide) hge, List.mem_append, List.mem_singleton] at hc
      rcases hc with hc | rfl
      · exact ih (n / 16) (Nat.div_lt_self (by omega) (by decide)) hc
      · exact hdigit _ (Nat.mod_lt _ (by decide))

theorem mem_of_mem_intercalate {α : Type} {a : α} {sep : List α} {parts : List (List α)}
    (ha : a ∈ sep.intercalate parts) : a ∈ sep ∨ ∃ part ∈ parts, a ∈ part := by
  induction parts with
  | nil => cases ha
  | cons first rest ih =>
    cases rest with
    | nil => exact .inr ⟨first, List.mem_singleton_self _, by simpa using ha⟩
    | cons second rest =>
      rw [List.intercalate_cons_cons, List.mem_append, List.mem_append] at ha
      rcases ha with (hfirst | hsep) | hrest
      · exact .inr ⟨first, List.mem_cons_self, hfirst⟩
      · exact .inl hsep
      · rcases ih hrest with hsep | ⟨part, hpart, ha⟩
        · exact .inl hsep
        · exact .inr ⟨part, List.mem_cons_of_mem _ hpart, ha⟩

theorem count_intercalate_singleton {α : Type} [DecidableEq α] {a : α} {parts : List (List α)}
    (h : ∀ part ∈ parts, a ∉ part) : ([a].intercalate parts).count a = parts.length - 1 := by
  induction parts with
  | nil => rfl
  | cons first rest ih =>
    have hfirst : first.count a = 0 := List.count_eq_zero.mpr (h first List.mem_cons_self)
    cases rest with
    | nil => simpa using hfirst
    | cons second rest =>
      rw [List.intercalate_cons_cons, List.count_append, List.count_append, hfirst,
        ih fun part hpart => h part (List.mem_cons_of_mem _ hpart)]
      simp only [List.count_singleton_self, List.length_cons]
      omega

namespace Host

/-- Characters of a host that is no address in brackets. -/
def isNameChar (c : Char) : Bool :=
  Http.Target.isAuthorityChar c && !":@[]".toList.contains c

/-- A host as it is written: a name, or an address in brackets. -/
inductive Written : List Char → Prop where
  | name {cs : List Char} (hname : ∀ c ∈ cs, isNameChar c = true) : Written cs
  | bracketed {inside : List Char} (hinside : ∀ c ∈ inside, isNameChar c = true ∨ c = ':')
      (hcolons : inside.count ':' ≤ 8) : Written ('[' :: (inside ++ [']']))

theorem isNameChar_of_isUnreserved {c : Char} (hc : isUnreserved c = true) :
    isNameChar c = true :=
  of_isUnreserved (p := fun d => isNameChar d = true) hc (by decide)

/-! ## Addresses of 128 bits -/

theorem length_of_ipv6? {cs : List Char} {pieces : List Nat} (h : ipv6? cs = some pieces) :
    pieces.length = 8 := by
  unfold ipv6? at h
  split at h
  · obtain ⟨all, -, h⟩ := Option.bind_eq_some_iff.mp h
    split_ifs at h with hlength
    obtain rfl := Option.some.inj h
    exact hlength
  · obtain ⟨front, -, h⟩ := Option.bind_eq_some_iff.mp h
    obtain ⟨back, -, h⟩ := Option.bind_eq_some_iff.mp h
    split_ifs at h with hlength
    obtain rfl := Option.some.inj h
    simp only [List.length_append, List.length_replicate]
    omega

theorem longestZeros_le (start : Nat) (pieces : List Nat) :
    (longestZeros start pieces).1 + (longestZeros start pieces).2 ≤ start + pieces.length := by
  induction pieces generalizing start with
  | nil => exact Nat.zero_le _
  | cons p rest ih =>
    have hlater := ih (start + 1)
    have hhere : zeroRun (p :: rest) ≤ (p :: rest).length := (List.takeWhile_prefix _).length_le
    simp only [longestZeros]
    split
    · exact Nat.add_le_add_left hhere start
    · rw [List.length_cons]
      omega

theorem toList_hexPieces (pieces : List Nat) :
    (hexPieces pieces).toList = [':'].intercalate (pieces.map Text.hexText) := by
  rw [hexPieces, String.toList_intercalate, List.map_map]
  congr 1
  exact List.map_congr_left fun p _ => String.toList_ofList

theorem isNameChar_or_colon_of_mem_hexPieces {pieces : List Nat} {c : Char}
    (hc : c ∈ (hexPieces pieces).toList) : isNameChar c = true ∨ c = ':' := by
  rw [toList_hexPieces] at hc
  rcases mem_of_mem_intercalate hc with hsep | ⟨part, hpart, hc⟩
  · exact .inr (List.mem_singleton.mp hsep)
  · obtain ⟨p, -, rfl⟩ := List.mem_map.mp hpart
    exact .inl (isNameChar_of_isUnreserved (isUnreserved_of_mem_hexText hc))

theorem count_hexPieces (pieces : List Nat) :
    (hexPieces pieces).toList.count ':' = pieces.length - 1 := by
  rw [toList_hexPieces, count_intercalate_singleton, List.length_map]
  intro part hpart hcolon
  obtain ⟨p, -, rfl⟩ := List.mem_map.mp hpart
  exact absurd (isUnreserved_of_mem_hexText hcolon) (by decide)

/-- An address is written with at most eight colons. -/
theorem written_ipv6Text {pieces : List Nat} (hlength : pieces.length = 8) :
    (∀ c ∈ (ipv6Text pieces).toList, isNameChar c = true ∨ c = ':') ∧
      (ipv6Text pieces).toList.count ':' ≤ 8 := by
  have hzeros := longestZeros_le 0 pieces
  unfold ipv6Text
  generalize longestZeros 0 pieces = zeros at hzeros
  obtain ⟨start, length⟩ := zeros
  dsimp only at hzeros ⊢
  split
  · refine ⟨fun c hc => isNameChar_or_colon_of_mem_hexPieces hc, ?_⟩
    rw [count_hexPieces]
    omega
  · constructor
    · intro c hc
      rw [String.toList_append, String.toList_append, List.mem_append, List.mem_append] at hc
      rcases hc with (hc | hc) | hc
      · exact isNameChar_or_colon_of_mem_hexPieces hc
      · right
        simpa using hc
      · exact isNameChar_or_colon_of_mem_hexPieces hc
    · have hgap : "::".toList.count ':' = 2 := by decide
      rw [String.toList_append, String.toList_append, List.count_append, List.count_append,
        count_hexPieces, count_hexPieces, hgap, List.length_take, List.length_drop]
      omega

/-! ## Hosts -/

theorem toList_toString (n : Nat) : (toString n).toList = Nat.toDigits 10 n :=
  String.toList_ofList

/-- A host that its own text stands for, made of the characters of an authority. -/
structure IsNamed (host : Host) : Prop where
  reads : ofChars? host.text.toList = some host
  nameable : ∀ name, host = .domain name → ∀ c ∈ name.toList, Http.Target.isAuthorityChar c = true

theorem not_forbidden_of_ofChars? {cs : List Char} {name : String}
    (h : ofChars? cs = some (.domain name)) : ∀ c ∈ name.toList, isForbiddenInDomain c = false := by
  unfold ofChars? at h
  split at h
  · split_ifs at h
    obtain ⟨pieces, -, h⟩ := Option.map_eq_some_iff.mp h
    contradiction
  · obtain ⟨decoded, -, h⟩ := Option.bind_eq_some_iff.mp h
    obtain ⟨ascii, -, h⟩ := Option.bind_eq_some_iff.mp h
    split_ifs at h with hempty hnumber
    · obtain ⟨address, -, h⟩ := Option.map_eq_some_iff.mp h
      contradiction
    · obtain rfl := Host.domain.inj (Option.some.inj h)
      rw [String.toList_ofList]
      simp only [Bool.or_eq_true, List.any_eq_true, not_or, not_exists, not_and,
        Bool.not_eq_true] at hempty
      exact hempty.2

theorem length_of_ofChars? {cs : List Char} {pieces : List Nat}
    (h : ofChars? cs = some (.ipv6 pieces)) : pieces.length = 8 := by
  unfold ofChars? at h
  split at h
  · split_ifs at h
    obtain ⟨read, hread, h⟩ := Option.map_eq_some_iff.mp h
    obtain rfl := Host.ipv6.inj h
    exact length_of_ipv6? hread
  · obtain ⟨decoded, -, h⟩ := Option.bind_eq_some_iff.mp h
    obtain ⟨ascii, -, h⟩ := Option.bind_eq_some_iff.mp h
    split_ifs at h
    · obtain ⟨address, -, h⟩ := Option.map_eq_some_iff.mp h
      contradiction
    · cases Option.some.inj h

theorem IsNamed.written {host : Host} (h : host.IsNamed) : Written host.text.toList := by
  cases host with
  | domain name =>
    refine .name fun c hc => ?_
    have hfree := not_forbidden_of_ofChars? h.reads c hc
    have hmarks : ∀ d ∈ ":@[]".toList, isForbiddenInDomain d = true :=
      Url.of_decide_all (by decide)
    have hmark : ":@[]".toList.contains c = false := by
      rw [List.contains_eq_mem, decide_eq_false_iff_not]
      intro hmem
      rw [hmarks c hmem] at hfree
      contradiction
    rw [isNameChar, h.nameable name rfl c hc, hmark]
    rfl
  | ipv4 address =>
    refine .name fun c hc => ?_
    rw [text, String.toList_intercalate] at hc
    rcases mem_of_mem_intercalate hc with hsep | ⟨part, hpart, hc⟩
    · rw [List.mem_singleton.mp hsep]
      decide
    · obtain ⟨digits, hdigits, rfl⟩ := List.mem_map.mp hpart
      obtain ⟨n, -, rfl⟩ := List.mem_map.mp hdigits
      rw [toList_toString] at hc
      exact isNameChar_of_isUnreserved (isUnreserved_of_isDigit (JsonText.isDigit_toDigits n c hc))
  | ipv6 pieces =>
    obtain ⟨hinside, hcolons⟩ := written_ipv6Text (length_of_ofChars? h.reads)
    have htext : (text (.ipv6 pieces)).toList = '[' :: ((ipv6Text pieces).toList ++ [']']) := by
      rw [text, String.toList_append, String.toList_append]
      rfl
    rw [htext]
    exact .bracketed hinside hcolons

namespace Written

variable {cs : List Char}

/-- What stands in a name ends no part of a URL and has no meaning in an authority. -/
structure IsPlain (c : Char) : Prop where
  high : 0x20 < c.toNat
  inside : Url.endsAuthority true c = false
  authority : Http.Target.isAuthorityChar c = true
  noPercent : c ≠ '%'
  noColon : c ≠ ':'
  noAt : c ≠ '@'
  noOpen : c ≠ '['
  noClose : c ≠ ']'

theorem isPlain_of_isNameChar {c : Char} (hc : isNameChar c = true) : IsPlain c := by
  obtain ⟨hauthority, hmarks⟩ := (Bool.and_eq_true _ _).mp hc
  obtain ⟨hcolon, hat, hopen, hclose⟩ : c ≠ ':' ∧ c ≠ '@' ∧ c ≠ '[' ∧ c ≠ ']' := by
    simpa using hmarks
  obtain ⟨hhigh, hinside, hpercent⟩ :
      0x20 < c.toNat ∧ Url.endsAuthority true c = false ∧ c ≠ '%' :=
    Url.of_isAlphanum_or_mem
      (p := fun d => 0x20 < d.toNat ∧ Url.endsAuthority true d = false ∧ d ≠ '%')
      hauthority (by decide) (by decide +kernel)
  exact ⟨hhigh, hinside, hauthority, hpercent, hcolon, hat, hopen, hclose⟩

/-- A host holds nothing that would end it. -/
theorem clear (h : Written cs) :
    ∀ c ∈ cs, 0x20 < c.toNat ∧ Url.endsAuthority true c = false ∧ c ≠ '@' := by
  have hname {c : Char} (hc : isNameChar c = true) :
      0x20 < c.toNat ∧ Url.endsAuthority true c = false ∧ c ≠ '@' :=
    have hplain := isPlain_of_isNameChar hc
    ⟨hplain.high, hplain.inside, hplain.noAt⟩
  cases h with
  | name hall => exact fun c hc => hname (hall c hc)
  | bracketed hinside =>
    intro c hc
    rw [List.mem_cons, List.mem_append, List.mem_singleton] at hc
    rcases hc with rfl | hc | rfl
    · decide
    · rcases hinside c hc with hc | rfl
      · exact hname hc
      · decide
    · decide

theorem isAuthorityChar (h : Written cs) : ∀ c ∈ cs, Http.Target.isAuthorityChar c = true := by
  cases h with
  | name hall => exact fun c hc => (isPlain_of_isNameChar (hall c hc)).authority
  | bracketed hinside =>
    intro c hc
    rw [List.mem_cons, List.mem_append, List.mem_singleton] at hc
    rcases hc with rfl | hc | rfl
    · decide
    · rcases hinside c hc with hc | rfl
      · exact (isPlain_of_isNameChar hc).authority
      · decide
    · decide

/-- The colon behind a host is the one of the port. -/
theorem splitPort (h : Written cs) (digits : List Char) :
    Url.splitPort false (cs ++ ':' :: digits) = (cs, ':' :: digits) := by
  cases h with
  | name hall =>
    induction cs with
    | nil => rfl
    | cons c cs ih =>
      have hc := isPlain_of_isNameChar (hall c List.mem_cons_self)
      rw [List.cons_append, Url.splitPort]
      simp [hc.noColon, hc.noOpen, hc.noClose, ih fun d hd => hall d (List.mem_cons_of_mem _ hd)]
  | @bracketed inside hinside hcolons =>
    -- within the brackets no colon ends the host
    have hwithin : Url.splitPort true (inside ++ ']' :: ':' :: digits) =
        (inside ++ [']'], ':' :: digits) := by
      clear hcolons
      induction inside with
      | nil => rfl
      | cons c inside ih =>
        have hrest := ih fun d hd => hinside d (List.mem_cons_of_mem _ hd)
        have hclose : c ≠ ']' := by
          rcases hinside c List.mem_cons_self with hc | rfl
          · exact (isPlain_of_isNameChar hc).noClose
          · decide
        rw [List.cons_append, Url.splitPort]
        simp [hclose, hrest]
    rw [List.cons_append, List.append_assoc, Url.splitPort]
    simp [hwithin]

section Seen

open Http.Target (Seen)

theorem step_of_isPlain {c : Char} (hc : IsPlain c) (colons : Nat) (opened closed : Bool) :
    Seen.step ⟨colons, opened, closed, false, false⟩ c =
      some ⟨colons, opened, closed, false, false⟩ := by
  simp [Seen.step, hc.authority, hc.noColon, hc.noOpen, hc.noClose, hc.noAt, hc.noPercent]

theorem foldlM_step_of_isPlain {cs : List Char} (hcs : ∀ c ∈ cs, IsPlain c) (colons : Nat)
    (opened closed : Bool) : cs.foldlM Seen.step ⟨colons, opened, closed, false, false⟩ =
      some ⟨colons, opened, closed, false, false⟩ := by
  induction cs with
  | nil => rfl
  | cons c cs ih =>
    rw [List.foldlM_cons, step_of_isPlain (hcs c List.mem_cons_self)]
    exact ih fun d hd => hcs d (List.mem_cons_of_mem _ hd)

/-- Within brackets colons are counted. -/
theorem foldlM_step_inside {inside : List Char} (hinside : ∀ c ∈ inside, isNameChar c = true ∨ c = ':')
    (colons : Nat) (hbound : colons + inside.count ':' ≤ 8) :
    inside.foldlM Seen.step ⟨colons, true, false, false, false⟩ =
      some ⟨colons + inside.count ':', true, false, false, false⟩ := by
  induction inside generalizing colons with
  | nil => rfl
  | cons c inside ih =>
    have hrest := ih fun d hd => hinside d (List.mem_cons_of_mem _ hd)
    rw [List.foldlM_cons]
    rcases hinside c List.mem_cons_self with hc | rfl
    · have hplain := isPlain_of_isNameChar hc
      rw [List.count_cons_of_ne hplain.noColon] at hbound ⊢
      rw [step_of_isPlain hplain]
      exact hrest colons hbound
    · rw [List.count_cons_self] at hbound ⊢
      have hstep : Seen.step ⟨colons, true, false, false, false⟩ ':' =
          some ⟨colons + 1, true, false, false, false⟩ := by
        have hfew : ¬ 8 ≤ colons := by omega
        simp [Seen.step, hfew]
      rw [hstep, show colons + (inside.count ':' + 1) = colons + 1 + inside.count ':' by omega]
      exact hrest (colons + 1) (by omega)

/-- A host leaves nothing open and no colon that counts. -/
theorem foldlM_step (h : Written cs) :
    ∃ brackets, cs.foldlM Seen.step ⟨0, false, false, false, false⟩ =
      some ⟨0, brackets, brackets, false, false⟩ := by
  cases h with
  | name hall =>
    exact ⟨false, foldlM_step_of_isPlain (fun c hc => isPlain_of_isNameChar (hall c hc)) 0 _ _⟩
  | @bracketed inside hinside hcolons =>
    refine ⟨true, ?_⟩
    have hwithin := foldlM_step_inside hinside 0 (by simpa using hcolons)
    have hopen : Seen.step ⟨0, false, false, false, false⟩ '[' =
        some ⟨0, true, false, false, false⟩ := rfl
    rw [List.foldlM_cons, hopen, Option.bind_eq_bind, Option.bind_some, List.foldlM_append,
      hwithin]
    rfl

end Seen

theorem isAuthority (h : Written cs) : Http.Target.isAuthority cs = true := by
  obtain ⟨brackets, hseen⟩ := h.foldlM_step
  simp [Http.Target.isAuthority, hseen]

/-- A host with a port is an authority too. -/
theorem isAuthority_append (h : Written cs) {digits : List Char}
    (hdigits : ∀ c ∈ digits, c.isDigit = true) :
    Http.Target.isAuthority (cs ++ ':' :: digits) = true := by
  obtain ⟨brackets, hseen⟩ := h.foldlM_step
  have hplain : ∀ c ∈ digits, IsPlain c := fun c hc =>
    isPlain_of_isNameChar (isNameChar_of_isUnreserved (isUnreserved_of_isDigit (hdigits c hc)))
  have hboth : (cs ++ ':' :: digits).foldlM Http.Target.Seen.step ⟨0, false, false, false, false⟩ =
      some ⟨1, brackets, brackets, false, false⟩ := by
    rw [List.foldlM_append, hseen, Option.bind_eq_bind, Option.bind_some, List.foldlM_cons]
    exact foldlM_step_of_isPlain hplain 1 brackets brackets
  simp [Http.Target.isAuthority, hboth]

end Written

end Host

end SessionGateway
