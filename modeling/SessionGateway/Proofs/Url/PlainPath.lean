import SessionGateway.Proofs.Url.Directories

/-! Paths of characters that are never encoded. Walking them removes dots and their parents, and so
leaves a path of such characters that is no longer. -/

namespace SessionGateway.Url

/-- Characters that stand for themselves in every part of a URL. -/
def isUnreserved (c : Char) : Bool := c.isAlphanum || "-._~".toList.contains c

theorem toNat_lt_of_isAlphanum {c : Char} (hc : c.isAlphanum = true) : c.toNat < 0x80 := by
  have hranges : (decide (c.val ≥ 'A'.val ∧ c.val ≤ 'Z'.val) ||
      decide (c.val ≥ 'a'.val) && decide (c.val ≤ 'z'.val) ||
        decide (c.val ≥ '0'.val) && decide (c.val ≤ '9'.val)) = true := hc
  simp only [Bool.or_eq_true, Bool.and_eq_true, decide_eq_true_eq, ge_iff_le,
    UInt32.le_iff_toNat_le] at hranges
  show c.val.toNat < 0x80
  rcases hranges with (⟨-, h⟩ | ⟨-, h⟩) | ⟨-, h⟩
  · exact Nat.lt_of_le_of_lt h (by decide)
  · exact Nat.lt_of_le_of_lt h (by decide)
  · exact Nat.lt_of_le_of_lt h (by decide)

/-- A list is looked through member by member, also where its members are of a type with many. -/
theorem of_decide_all {α : Type} {p : α → Prop} [DecidablePred p] {l : List α}
    (h : (l.all fun a => decide (p a)) = true) : ∀ a ∈ l, p a := fun a ha =>
  of_decide_eq_true (List.all_eq_true.mp h a ha)

/-- Letters, digits and certain marks are few, so that each can be looked at. -/
theorem of_isAlphanum_or_mem {p : Char → Prop} {c : Char} {marks : List Char}
    (hc : (c.isAlphanum || marks.contains c) = true)
    (hmarks : (marks.all fun d => decide (d.toNat < 0x80)) = true)
    (hp : ∀ n < 0x80, ((Char.ofNat n).isAlphanum || marks.contains (Char.ofNat n)) = true →
      p (Char.ofNat n)) : p c := by
  have hlt : c.toNat < 0x80 := by
    rcases (Bool.or_eq_true _ _).mp hc with halnum | hmark
    · exact toNat_lt_of_isAlphanum halnum
    · exact of_decide_all hmarks c (List.contains_iff_mem.mp hmark)
  simpa using hp c.toNat hlt (by simpa using hc)

theorem of_isUnreserved {p : Char → Prop} {c : Char} (hc : isUnreserved c = true)
    (hp : ∀ n < 0x80, isUnreserved (Char.ofNat n) = true → p (Char.ofNat n)) : p c :=
  of_isAlphanum_or_mem hc (by decide) hp

/-- The same of what a plain path is made of. -/
theorem of_isUnreserved_or_slash {p : Char → Prop} {c : Char} (hc : isUnreserved c = true ∨ c = '/')
    (hp : ∀ n < 0x80, isUnreserved (Char.ofNat n) = true → p (Char.ofNat n)) (hslash : p '/') :
    p c := by
  rcases hc with hc | rfl
  · exact of_isUnreserved hc hp
  · exact hslash

/-- A path of unreserved characters and slashes. -/
structure IsPlainPath (t : List Char) : Prop where
  rooted : ∃ more, t = '/' :: more
  plain : ∀ c ∈ t, isUnreserved c = true ∨ c = '/'

theorem encodeSegment_of_isUnreserved {segment : List Char}
    (h : ∀ c ∈ segment, isUnreserved c = true) : encodeSegment segment = String.ofList segment := by
  have hsame : segment.flatMap (encodeChar inPathSet) = segment := by
    induction segment with
    | nil => rfl
    | cons c segment ih =>
      have hc : inPathSet c = false :=
        of_isUnreserved (p := fun d => inPathSet d = false) (h c List.mem_cons_self) (by decide)
      rw [List.flatMap_cons, ih fun d hd => h d (List.mem_cons_of_mem _ hd), encodeChar, hc]
      rfl
  rw [encodeSegment, percentEncode, hsame]

theorem toList_pathText (segments : List String) :
    (pathText segments).toList = segments.flatMap fun s => '/' :: s.toList := by
  rw [pathText, UrlPath.text, String.toList_join, List.flatMap_map]
  congr 1
  funext s
  rw [String.toList_append]
  rfl

theorem parent_sublist (segments : List String) : (parent segments).Sublist segments := by
  unfold parent
  split
  · exact .refl _
  · exact List.dropLast_sublist _

theorem length_pathText_concat (segments : List String) (s : String) :
    (pathText (segments ++ [s])).length = (pathText segments).length + (s.length + 1) := by
  rw [pathText_append, String.length_append]
  congr 1
  rw [← String.length_toList, toList_pathText, ← String.length_toList]
  simp

theorem length_pathText_parent_le (segments : List String) :
    (pathText (parent segments)).length ≤ (pathText segments).length := by
  unfold parent
  split
  · exact Nat.le_refl _
  · rcases List.eq_nil_or_concat segments with rfl | ⟨front, last, rfl⟩
    · exact Nat.le_refl _
    · rw [List.concat_eq_append, List.dropLast_concat, length_pathText_concat]
      exact Nat.le_add_right _ _

section Walk

variable {parts : List (List Char)} (start : List String)

/-- What holds of the names at the start, of those that are walked and of the empty one holds of all
that are left. -/
theorem forall_mem_walkSegments {P : String → Prop} (hempty : P "") (hstart : ∀ s ∈ start, P s)
    (hparts : ∀ p ∈ parts, P (encodeSegment p)) : ∀ s ∈ walkSegments false start parts, P s := by
  have hmore {dirs : List String} {s : String} (hdirs : ∀ s ∈ dirs, P s) (hs : P s) :
      ∀ t ∈ dirs ++ [s], P t := by
    intro t ht
    rcases List.mem_append.mp ht with ht | ht
    · exact hdirs t ht
    · rwa [List.mem_singleton.mp ht]
  induction parts generalizing start with
  | nil => exact hstart
  | cons part parts ih =>
    have hrest : ∀ p ∈ parts, P (encodeSegment p) := fun p hp =>
      hparts p (List.mem_cons_of_mem _ hp)
    have hup : ∀ s ∈ parent start, P s := fun s hs => hstart s ((parent_sublist start).subset hs)
    simp only [walkSegments, Bool.false_and, Bool.false_eq_true, if_false]
    split_ifs
    · exact ih _ (hmore hup hempty) hrest
    · exact ih _ hup hrest
    · exact ih _ (hmore hstart hempty) hrest
    · exact ih _ hstart hrest
    · exact ih _ (hmore hstart (hparts part List.mem_cons_self)) hrest

/-- Walking makes no path longer. -/
theorem length_walkSegments_le (hparts : ∀ p ∈ parts, ∀ c ∈ p, isUnreserved c = true) :
    (pathText (walkSegments false start parts)).length ≤
      (pathText start).length + (parts.flatMap fun p => '/' :: p).length := by
  induction parts generalizing start with
  | nil => exact Nat.le_refl _
  | cons part parts ih =>
    have hstep (dirs : List String) := ih dirs
      fun p hp => hparts p (List.mem_cons_of_mem _ hp)
    have hup := length_pathText_parent_le start
    have hpart := encodeSegment_of_isUnreserved (hparts part List.mem_cons_self)
    simp only [walkSegments, Bool.false_and, Bool.false_eq_true, if_false, List.flatMap_cons,
      List.length_append, List.length_cons]
    have hempty : "".length = 0 := rfl
    split_ifs
    · have := hstep (parent start ++ [""])
      rw [length_pathText_concat] at this
      omega
    · have := hstep (parent start)
      omega
    · have := hstep (start ++ [""])
      rw [length_pathText_concat] at this
      omega
    · have := hstep start
      omega
    · have := hstep (start ++ [encodeSegment part])
      rw [length_pathText_concat, hpart, String.length_ofList] at this
      rw [hpart]
      omega

theorem walkSegments_ne_nil (h : start ≠ [] ∨ parts ≠ []) :
    walkSegments false start parts ≠ [] := by
  induction parts generalizing start with
  | nil => simpa [walkSegments] using h
  | cons part parts ih =>
    have hmore (dirs : List String) (s : String) : dirs ++ [s] ≠ [] ∨ parts ≠ [] := .inl (by simp)
    simp only [walkSegments, Bool.false_and, Bool.false_eq_true, if_false]
    split_ifs with hup hlast hdot hlast
    · exact ih _ (hmore _ _)
    · exact ih _ (.inr (by simpa using hlast))
    · exact ih _ (hmore _ _)
    · exact ih _ (.inr (by simpa using hlast))
    · exact ih _ (hmore _ _)

end Walk

theorem length_flatMap_splitAtChar (p : Char → Bool) (cs : List Char) :
    ((Text.splitAtChar p cs).flatMap fun part => '/' :: part).length = cs.length + 1 := by
  induction cs with
  | nil => rfl
  | cons c cs ih =>
    obtain ⟨piece, pieces, hpieces⟩ := List.exists_cons_of_ne_nil (splitAtChar_ne_nil p cs)
    rw [hpieces, List.flatMap_cons, List.length_append, List.length_cons] at ih
    simp only [Text.splitAtChar]
    split
    · simp only [hpieces, List.flatMap_cons, List.length_append, List.length_cons, List.length_nil]
      omega
    · simp only [hpieces, List.flatMap_cons, List.length_append, List.length_cons]
      omega

theorem splitAtChar_of_forall {p : Char → Bool} {cs : List Char} (h : ∀ c ∈ cs, p c = false) :
    Text.splitAtChar p cs = [cs] := by
  induction cs with
  | nil => rfl
  | cons c cs ih =>
    rw [Text.splitAtChar, h c List.mem_cons_self, ih fun d hd => h d (List.mem_cons_of_mem _ hd)]
    rfl

/-- Separators are in no piece, and the pieces hold nothing else. -/
theorem mem_of_mem_splitAtChar {p : Char → Bool} {cs part : List Char} {c : Char}
    (hpart : part ∈ Text.splitAtChar p cs) (hc : c ∈ part) : c ∈ cs ∧ p c = false := by
  induction cs generalizing part with
  | nil =>
    rw [List.mem_singleton.mp hpart] at hc
    cases hc
  | cons d cs ih =>
    obtain ⟨piece, pieces, hpieces⟩ := List.exists_cons_of_ne_nil (splitAtChar_ne_nil p cs)
    have hbelow {part : List Char} (hpart : part ∈ piece :: pieces) (hc : c ∈ part) :
        c ∈ d :: cs ∧ p c = false := by
      obtain ⟨hmem, hno⟩ := ih (hpieces ▸ hpart) hc
      exact ⟨List.mem_cons_of_mem d hmem, hno⟩
    simp only [Text.splitAtChar, hpieces] at hpart
    split_ifs at hpart with hd
    · rcases List.mem_cons.mp hpart with rfl | hpart
      · cases hc
      · exact hbelow hpart hc
    · rcases List.mem_cons.mp hpart with rfl | hpart
      · rcases List.mem_cons.mp hc with rfl | hc
        · exact ⟨List.mem_cons_self, by simpa using hd⟩
        · exact hbelow List.mem_cons_self hc
      · exact hbelow (List.mem_cons_of_mem _ hpart) hc

/-- A path of unreserved characters is read as one that is no longer. -/
theorem IsPlainPath.read {t : List Char} (h : IsPlainPath t) :
    IsPlainPath (pathText (readSegments "http" t)).toList ∧
      (pathText (readSegments "http" t)).length ≤ t.length := by
  obtain ⟨⟨more, rfl⟩, hplain⟩ := h
  have hslash : isSlash true '/' = true := rfl
  have hread : readSegments "http" ('/' :: more) =
      walkSegments false [] (Text.splitAtChar (isSlash true) more) := by
    rw [readSegments_eq (.inl rfl)]
    simp only [hslash, if_true]
  have hparts : ∀ p ∈ Text.splitAtChar (isSlash true) more, ∀ c ∈ p, isUnreserved c = true := by
    intro p hp c hc
    obtain ⟨hmem, hno⟩ := mem_of_mem_splitAtChar hp hc
    rcases hplain c (List.mem_cons_of_mem _ hmem) with hc | rfl
    · exact hc
    · contradiction
  rw [hread]
  refine ⟨⟨?_, ?_⟩, ?_⟩
  · obtain ⟨s, segments, hsegments⟩ := List.exists_cons_of_ne_nil
      (walkSegments_ne_nil [] (.inr (splitAtChar_ne_nil (isSlash true) more)))
    rw [hsegments, toList_pathText]
    exact ⟨_, rfl⟩
  · have hnames := forall_mem_walkSegments []
      (P := fun s => ∀ c ∈ s.toList, isUnreserved c = true) (by simp) nofun fun p hp c hc => by
        rw [encodeSegment_of_isUnreserved (hparts p hp), String.toList_ofList] at hc
        exact hparts p hp c hc
    intro c hc
    rw [toList_pathText, List.mem_flatMap] at hc
    obtain ⟨s, hs, hc⟩ := hc
    rcases List.mem_cons.mp hc with rfl | hc
    · exact .inr rfl
    · exact .inl (hnames s hs c hc)
  · have hlength := length_walkSegments_le [] hparts
    rw [length_flatMap_splitAtChar] at hlength
    exact hlength.trans (by rw [Nat.add_comm]; exact Nat.le_refl _)

end SessionGateway.Url
