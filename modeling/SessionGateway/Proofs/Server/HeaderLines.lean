import SessionGateway.Http.Exchange
import SessionGateway.Proofs.Server.Authority
import SessionGateway.Proofs.Url.Gluing
import SessionGateway.Proofs.Utf8

/-! Header lines as they are written are read one by one, each up to its line break. A value that
holds no control characters but tabs cannot end its line, and only loses the blanks around it. A
number is its digits. -/

namespace SessionGateway.Http

/-- The bytes of a value without the blanks around it. -/
def strip (value : List UInt8) : List UInt8 :=
  ((value.dropWhile isBlank).reverse.dropWhile isBlank).reverse

/-- A line of a name and a value in bytes. -/
def line (name value : List UInt8) : List UInt8 := name ++ byte ':' :: (value ++ lineBreak)

/-- Bytes that make a header line. -/
structure IsLine (name value : List UInt8) : Prop where
  named : name ≠ []
  nameBytes : ∀ b ∈ name, isNameByte b = true
  valueBytes : ∀ b ∈ value, isValueByte b = true

theorem isNameByte_break : isNameByte lineFeed = false ∧ isNameByte carriageReturn = false ∧
    isNameByte (byte ':') = false := by decide +kernel

theorem expect_append (wanted rest : List UInt8) :
    expect wanted (wanted ++ rest) = .done () rest := by
  induction wanted with
  | nil => rfl
  | cons w wanted ih => simp only [List.cons_append, expect, beq_self_eq_true, if_true, ih]

theorem lineEnd_lineBreak (rest : List UInt8) : lineEnd (lineBreak ++ rest) = .done () rest := rfl

theorem readHeader_line {name value : List UInt8} (h : IsLine name value) (rest : List UInt8) :
    readHeader (line name value ++ rest) = .done (lowerName name, strip value) rest := by
  have hline : line name value ++ rest = name ++ byte ':' :: (value ++ (lineBreak ++ rest)) := by
    simp [line]
  have hname : ∀ b ∈ (byte ':' :: (value ++ (lineBreak ++ rest))).head?, isNameByte b = false := by
    rintro b ⟨⟩
    exact isNameByte_break.2.2
  have hnames : name.takeWhile isNameByte = name ∧ name.dropWhile isNameByte = [] :=
    ⟨List.takeWhile_eq_self_iff.mpr h.nameBytes, List.dropWhile_eq_nil_iff.mpr h.nameBytes⟩
  have hblank : ∀ b ∈ (lineBreak ++ rest).head?, isBlank b = false := by
    rintro b ⟨⟩
    rfl
  have hbreak : ∀ b ∈ (lineBreak ++ rest).head?, isValueByte b = false := by
    rintro b ⟨⟩
    rfl
  have hvalue : ∀ b ∈ value.dropWhile isBlank, isValueByte b = true := fun b hb =>
    h.valueBytes b ((List.dropWhile_suffix _).subset hb)
  have htake := Url.takeWhile_append_of_head? hbreak (value.dropWhile isBlank)
  rw [List.takeWhile_eq_self_iff.mpr hvalue, List.dropWhile_eq_nil_iff.mpr hvalue,
    List.nil_append] at htake
  rw [hline]
  simp only [readHeader, (Url.takeWhile_append_of_head? hname name).1,
    (Url.takeWhile_append_of_head? hname name).2, hnames.1, hnames.2, List.nil_append,
    List.isEmpty_eq_false_iff.mpr h.named, Bool.false_eq_true, if_false, bne_self_eq_false,
    (Url.takeWhile_append_of_head? hblank value).2, htake.1, htake.2, lineEnd_lineBreak, strip]

/-- Lines up to an empty one are read as they stand, unless there are too many. -/
theorem readHeaders_lines {lines : List (List UInt8 × List UInt8)}
    (hlines : ∀ l ∈ lines, IsLine l.1 l.2) (fuel : Nat) (rest : List UInt8) :
    readHeaders fuel (lines.flatMap (fun l => line l.1 l.2) ++ (lineBreak ++ rest)) =
      if lines.length ≤ fuel then .done (lines.map fun l => (lowerName l.1, strip l.2)) rest
      else .malformed := by
  induction lines generalizing fuel with
  | nil => cases fuel <;> rfl
  | cons l lines ih =>
    have hl := hlines l List.mem_cons_self
    have hrest := ih fun m hm => hlines m (List.mem_cons_of_mem _ hm)
    set more := lines.flatMap (fun l => line l.1 l.2) ++ (lineBreak ++ rest) with hmore
    have hread := readHeader_line hl more
    obtain ⟨b, name, hname⟩ := List.exists_cons_of_ne_nil hl.named
    have hbytes : line l.1 l.2 ++ more = b :: (name ++ byte ':' :: (l.2 ++ lineBreak) ++ more) := by
      rw [line, hname]
      rfl
    have hb : isNameByte b = true := hl.nameBytes b (by rw [hname]; exact List.mem_cons_self)
    have hfirst : (b == lineFeed || b == carriageReturn) = false := by
      rw [Bool.or_eq_false_iff, beq_eq_false_iff_ne, beq_eq_false_iff_ne]
      constructor
      · rintro rfl
        exact absurd hb (by rw [isNameByte_break.1]; decide)
      · rintro rfl
        exact absurd hb (by rw [isNameByte_break.2.1]; decide)
    have hbegin : (l :: lines).flatMap (fun l => line l.1 l.2) ++ (lineBreak ++ rest) =
        line l.1 l.2 ++ more := by
      rw [List.flatMap_cons, List.append_assoc]
    rw [hbytes] at hread
    rw [hbegin, hbytes]
    cases fuel with
    | zero =>
      have hmany : ¬ (l :: lines).length ≤ 0 := Nat.not_succ_le_zero _
      simp only [readHeaders, hfirst, hmany, Bool.false_eq_true, if_false]
    | succ fuel =>
      simp only [readHeaders, hfirst, Bool.false_eq_true, if_false, hread, hrest, List.length_cons,
        Nat.succ_le_succ_iff, List.map_cons]
      split_ifs <;> rfl

/-! ## Texts -/

/-- The bytes of a value that can be sent stand in a line. -/
theorem isValueByte_of_isSendableValue {value : String} (h : isSendableValue value = true) :
    ∀ b ∈ Text.utf8 value.toList, isValueByte b = true := by
  intro b hb
  by_cases hlt : b < 0x80
  · have hsend := List.all_eq_true.mp h _ (Text.mem_of_mem_utf8 hb hlt)
    have hsmall : ∀ n < 0x80, (decide (Char.ofNat n = '\t') ||
        (decide (0x20 ≤ (Char.ofNat n).toNat) && decide ((Char.ofNat n).toNat ≠ 0x7F))) = true →
          isValueByte (UInt8.ofNat n) = true := by decide +kernel
    have hbyte := hsmall b.toNat (UInt8.lt_iff_toNat_lt.mp hlt) hsend
    rwa [UInt8.ofNat_toNat] at hbyte
  · have hlarge : (0x80 : UInt8).toNat ≤ b.toNat := UInt8.le_iff_toNat_le.mp (UInt8.not_lt.mp hlt)
    have hhigh : (32 : UInt8) ≤ b := by
      rw [UInt8.le_iff_toNat_le]
      exact Nat.le_trans (by decide) hlarge
    have hne : b ≠ 127 := by
      rintro rfl
      exact absurd hlarge (by decide)
    simp [isValueByte, hhigh, hne]

theorem headerLine_eq (name value : String) :
    headerLine name value = line (Text.utf8 name.toList) (space :: Text.utf8 value.toList) := by
  rw [headerLine, String.toList_append, String.toList_append, Text.utf8_append, Text.utf8_append,
    line, List.append_assoc, List.append_assoc]
  rfl

theorem strip_space (value : List UInt8) : strip (space :: value) = strip value := rfl

/-! ## Numbers -/

/-- Nothing is taken away at either end where nothing is to go. -/
theorem dropWhile_both_eq_self {α : Type} {p : α → Bool} {l : List α} (h : ∀ a ∈ l, p a = false) :
    ((l.dropWhile p).reverse.dropWhile p).reverse = l := by
  have hkept {m : List α} (hm : ∀ a ∈ m, p a = false) : m.dropWhile p = m := by
    cases m with
    | nil => rfl
    | cons a m => exact List.dropWhile_cons_of_neg (Bool.eq_false_iff.mp (hm a List.mem_cons_self))
  rw [hkept h, hkept fun a ha => h a (List.mem_reverse.mp ha), List.reverse_reverse]

/-- The bytes of a number in decimal digits. -/
def digits (n : Nat) : List UInt8 := Text.utf8 (toString n).toList

theorem digits_eq (n : Nat) : digits n = Text.utf8 (Nat.toDigits 10 n) := by
  rw [digits, Host.toList_toString]

theorem toNat_lt_of_mem_toDigits {n : Nat} {c : Char} (hc : c ∈ Nat.toDigits 10 n) :
    c.toNat < 0x80 :=
  Url.toNat_lt_of_isAlphanum (by simp [Char.isAlphanum, JsonText.isDigit_toDigits n c hc])

theorem map_ofNat_digits (n : Nat) :
    (digits n).map (fun b => Char.ofNat b.toNat) = Nat.toDigits 10 n := by
  rw [digits_eq, Text.map_ofNat_utf8 fun c hc => toNat_lt_of_mem_toDigits hc]

theorem digits_ne_nil (n : Nat) : digits n ≠ [] := by
  intro hnil
  have hmap := map_ofNat_digits n
  rw [hnil] at hmap
  exact Nat.toDigits_ne_nil hmap.symm

theorem isDigit_of_mem_digits {n : Nat} {b : UInt8} (hb : b ∈ digits n) : isDigit b = true := by
  have hmem : Char.ofNat b.toNat ∈ Nat.toDigits 10 n := by
    rw [← map_ofNat_digits]
    exact List.mem_map_of_mem hb
  have hdigit : ∀ b : Fin 256, (Char.ofNat b.val).isDigit = true →
      isDigit (UInt8.ofNat b.val) = true := by decide +kernel
  have hb := hdigit ⟨b.toNat, b.toNat_lt⟩ (JsonText.isDigit_toDigits n _ hmem)
  rwa [UInt8.ofNat_toNat] at hb

theorem strip_digits (n : Nat) : strip (digits n) = digits n := by
  refine dropWhile_both_eq_self fun b hb => ?_
  have hdigit := isDigit_of_mem_digits hb
  rw [isBlank, Bool.or_eq_false_iff, beq_eq_false_iff_ne, beq_eq_false_iff_ne]
  constructor
  · rintro rfl
    exact absurd hdigit (by decide)
  · rintro rfl
    exact absurd hdigit (by decide)

end SessionGateway.Http
