import SessionGateway.Proofs.Redirects
import SessionGateway.Proofs.Server.WrittenHead

/-! A reply as a server may write it: a status line with or without words, header lines in any
spelling, and a text whose bytes one of the lines counts. It is read as its status and its text,
whatever comes behind it. -/

namespace SessionGateway

namespace Text

theorem nextChar_byteOrderMark (rest : List UInt8) :
    nextChar 0xEF (0xBB :: 0xBF :: rest) = (some '\ufeff', 3) := by
  cases rest <;> rfl

/-- Bytes of a text that does not start with a mark are decoded to the text. -/
theorem decode_utf8 {cs : List Char} (h : cs.head? ≠ some '\ufeff') :
    Charset.decode .utf8 (utf8 cs) = cs := by
  have hplain : Charset.decodeAs (utf8 cs) .utf8 = cs := ofUtf8Lossy_utf8 cs
  cases cs with
  | nil => rfl
  | cons c cs =>
    obtain ⟨b, more, hbytes, hnext⟩ := nextChar_utf8EncodeChar c (utf8 cs)
    have hsplit : utf8 (c :: cs) = b :: (more ++ utf8 cs) := by
      rw [utf8, List.flatMap_cons, hbytes]
      rfl
    rw [hsplit] at hplain ⊢
    generalize more ++ utf8 cs = rest at hnext hplain
    -- No other character starts with the bytes of a mark, and none at all with those of UTF-16.
    unfold Charset.decode
    split
    next heq =>
      obtain ⟨rfl, rfl⟩ := List.cons.inj heq
      rw [nextChar_byteOrderMark] at hnext
      obtain rfl := Option.some.inj (Prod.mk.inj hnext).1
      exact absurd rfl h
    next heq =>
      obtain ⟨rfl, -⟩ := List.cons.inj heq
      cases (Prod.mk.inj hnext).1
    next heq =>
      obtain ⟨rfl, -⟩ := List.cons.inj heq
      cases (Prod.mk.inj hnext).1
    · exact hplain

end Text

namespace Http

structure WrittenReply extends WrittenHead where
  text : String

namespace WrittenReply

/-- The head and the text behind it. -/
def bytes (r : WrittenReply) : List UInt8 := r.toWrittenHead.bytes ++ Text.utf8 r.text.toList

/-- What a reply says. Some statuses have nothing to say. -/
def response (r : WrittenReply) : Response :=
  ⟨r.status, if SizedReply.isBodiless r.status then "" else r.text⟩

/-- A header value that gives a number in decimal digits. -/
def Counts (value : List UInt8) (n : Nat) : Prop :=
  ∃ count : List Char, value = Text.utf8 count ∧ count ≠ [] ∧
    (∀ c ∈ count, c.isDigit = true) ∧ Text.decimalValue count = n

/-- A final reply that comes to its end by a count of its bytes and leads nowhere else. -/
structure IsWhole (r : WrittenReply) : Prop extends r.toWrittenHead.IsFinal where
  counted : SizedReply.isBodiless r.status = false →
    r.head.values "transfer-encoding" = [] ∧ ∃ value, r.head.values "content-length" = [value] ∧
      Counts value r.text.utf8ByteSize ∧ r.text.utf8ByteSize < power 2 64 - 2
  settled : r.status ∈ redirectStatuses → r.head.values "location" = []
  /-- The text has no mark in front, and no other encoding is named. -/
  unmarked : r.text.toList.head? ≠ some '\ufeff'
  charset : ∀ value ∈ r.head.value? "content-type", ∀ name ∈ asText? value,
    ∀ mediaType ∈ MediaType.ofText? name, ∀ label ∈ mediaType.parameters.lookup "charset",
      Text.sameName label "utf-8" = true

variable {r : WrittenReply}

theorem isDigit_lt {c : Char} (hc : c.isDigit = true) : 0x20 ≤ c.toNat ∧ c.toNat < 0x7F :=
  Url.of_isUnreserved (p := fun d => 0x20 ≤ d.toNat ∧ d.toNat < 0x7F) (isUnreserved_of_isDigit hc)
    (by decide)

/-- A count is a list of one length, which is what it counts unless that is too large. -/
theorem Counts.exists_part {value : List UInt8} {n : Nat} (h : Counts value n) :
    ∃ count : List Char, asText? value = some (String.ofList count) ∧
      Text.splitAtChar (· == ',') count = [count] ∧
      Text.trimBoth Char.isWhitespace count = count ∧
      lengthOf? count = if n < power 2 64 then some n else none := by
  obtain ⟨count, rfl, hne, hdigits, rfl⟩ := h
  have hascii : ∀ c ∈ count, c.toNat < 0x80 := fun c hc =>
    Nat.lt_succ_of_lt (isDigit_lt (hdigits c hc)).2
  have hprinted : (Text.utf8 count).all (fun b => b == tab || (32 ≤ b && b < 127)) = true := by
    rw [Text.utf8_of_ascii hascii, List.all_map, List.all_eq_true]
    intro c hc
    exact Url.of_isUnreserved (p := fun d =>
      (UInt8.ofNat d.toNat == tab ||
        (decide (32 ≤ UInt8.ofNat d.toNat) && decide (UInt8.ofNat d.toNat < 127))) = true)
      (isUnreserved_of_isDigit (hdigits c hc)) (by decide)
  have hclear : ∀ c ∈ count, (c == ',') = false ∧ c.isWhitespace = false := fun c hc =>
    Url.of_isUnreserved (p := fun d => (d == ',') = false ∧ d.isWhitespace = false)
      (isUnreserved_of_isDigit (hdigits c hc)) (by decide)
  have hall : count.all Char.isDigit = true := List.all_eq_true.mpr hdigits
  refine ⟨count, ?_, Url.splitAtChar_of_forall fun c hc => (hclear c hc).1,
    dropWhile_both_eq_self fun c hc => (hclear c hc).2, ?_⟩
  · rw [asText?, if_pos hprinted, Text.map_ofNat_utf8 hascii]
  · simp only [lengthOf?, List.isEmpty_eq_false_iff.mpr hne, hall, Bool.not_true, Bool.or_self,
      Bool.false_eq_true, if_false]

/-- A count is announced as what it is. -/
theorem agreedLength?_of_counts {value : List UInt8} {n : Nat} (h : Counts value n)
    (hn : n < power 2 64 - 2) : agreedLength? [value] = some n := by
  obtain ⟨count, htext, hpart, htrim, hlength⟩ := h.exists_part
  rw [if_pos (Nat.lt_of_lt_of_le hn (Nat.sub_le _ _))] at hlength
  simp only [agreedLength?, announcedLengths?, List.mapM_cons, List.mapM_nil, htext, hlength,
    Option.bind_eq_bind, Option.bind_some, Option.pure_def, List.flatMap_cons, List.flatMap_nil,
    String.toList_ofList, hpart, List.append_nil, List.map_cons, List.map_nil, htrim, List.all_nil,
    Bool.true_and, decide_eq_true hn, if_true]

theorem exists_mem_of_mapM {α β : Type} {f : α → Option β} {l : List α} {results : List β}
    (h : l.mapM f = some results) {a : α} (ha : a ∈ l) : ∃ b ∈ results, f a = some b := by
  induction l generalizing results with
  | nil => contradiction
  | cons c l ih =>
    rw [List.mapM_cons] at h
    obtain ⟨b, hb, h⟩ := Option.bind_eq_some_iff.mp h
    obtain ⟨others, hothers, h⟩ := Option.bind_eq_some_iff.mp h
    obtain rfl := Option.some.inj h
    rcases List.mem_cons.mp ha with rfl | ha
    · exact ⟨b, List.mem_cons_self, hb⟩
    · obtain ⟨d, hd, hfa⟩ := ih hothers ha
      exact ⟨d, List.mem_cons_of_mem _ hd, hfa⟩

/-- Announcements that agree on a length agree on what one of them counts. -/
theorem Counts.eq_of_agreedLength? {values : List (List UInt8)} {value : List UInt8} {m n : Nat}
    (h : Counts value n) (hvalue : value ∈ values) (hagreed : agreedLength? values = some m) :
    m = n := by
  obtain ⟨count, htext, hpart, htrim, hlength⟩ := h.exists_part
  obtain ⟨lengths, hlengths, hagreed⟩ := Option.bind_eq_some_iff.mp hagreed
  have hmem : n ∈ lengths := by
    obtain ⟨texts, htexts, hlengths⟩ := Option.bind_eq_some_iff.mp hlengths
    obtain ⟨text, hmem, hsame⟩ := exists_mem_of_mapM htexts hvalue
    obtain rfl := Option.some.inj (htext.symm.trans hsame)
    have hcount : count ∈ (texts.flatMap fun t => Text.splitAtChar (· == ',') t.toList).map
        (Text.trimBoth Char.isWhitespace) := by
      refine List.mem_map.mpr ⟨count, List.mem_flatMap.mpr ⟨_, hmem, ?_⟩, htrim⟩
      rw [String.toList_ofList, hpart]
      exact List.mem_singleton_self _
    obtain ⟨k, hk, hsame⟩ := exists_mem_of_mapM hlengths hcount
    rw [hlength] at hsame
    split_ifs at hsame
    rwa [Option.some.inj hsame]
  cases lengths with
  | nil => contradiction
  | cons first rest =>
    simp only at hagreed
    split_ifs at hagreed with hall
    obtain rfl := Option.some.inj hagreed
    simp only [Bool.and_eq_true, List.all_eq_true, beq_iff_eq] at hall
    rcases List.mem_cons.mp hmem with rfl | hmem
    · rfl
    · exact (hall.1 n hmem).symm

theorem IsWhole.framing?_head (h : r.IsWhole) : r.head.framing? = some
    (if SizedReply.isBodiless r.status then .empty else .sized r.text.utf8ByteSize) := by
  have hfinal : r.status ≠ 101 := by
    have hlow := h.status.1
    omega
  cases hbodiless : SizedReply.isBodiless r.status with
  | true =>
    have hstatus : r.status = 101 ∨ r.status = 204 ∨ r.status = 304 := by
      right
      simpa only [SizedReply.isBodiless, Bool.or_eq_true, decide_eq_true_eq] using hbodiless
    rw [Head.framing?, WrittenHead.status_head, if_pos hstatus]
    rfl
  | false =>
    obtain ⟨htransfer, value, hvalue, hcounts, hbound⟩ := h.counted hbodiless
    have hstatus : ¬ (r.status = 101 ∨ r.status = 204 ∨ r.status = 304) := by
      simp only [SizedReply.isBodiless, Bool.or_eq_false_iff, decide_eq_false_iff_not] at hbodiless
      exact not_or.mpr ⟨hfinal, not_or.mpr hbodiless⟩
    rw [Head.framing?, WrittenHead.status_head, if_neg hstatus, if_neg (not_not_intro htransfer), hvalue,
      if_pos (List.cons_ne_nil _ _), agreedLength?_of_counts hcounts hbound]
    rfl

/-- The name of the encoding that texts are written in. -/
theorem ofLabel?_of_sameName {label : String} (h : Text.sameName label "utf-8" = true) :
    Text.Charset.ofLabel? label = some .utf8 := by
  have hfold : Text.foldAscii label = Text.foldAscii "utf-8" := by
    rwa [Text.sameName, beq_iff_eq] at h
  have hchars : label.toList.map Char.toLower = "utf-8".toList.map Char.toLower :=
    String.ofList_injective hfold
  have hclear : ∀ c ∈ label.toList, Text.Charset.isLabelBlank c = false := by
    intro c hc
    have hlower : c.toLower ∈ "utf-8".toList.map Char.toLower := by
      rw [← hchars]
      exact List.mem_map_of_mem hc
    have hlegible : ∀ d ∈ "utf-8".toList.map Char.toLower, Text.Charset.isLabelBlank d = false :=
      Url.of_decide_all (by decide)
    have hkept (d : Char) (hd : Text.Charset.isLabelBlank d = true) : d.toLower = d := by
      simp only [Text.Charset.isLabelBlank, Bool.or_eq_true, decide_eq_true_eq] at hd
      rcases hd with (((rfl | rfl) | rfl) | rfl) | rfl <;> decide
    by_contra hblank
    rw [Bool.not_eq_false] at hblank
    have hother := hlegible _ hlower
    rw [hkept c hblank, hblank] at hother
    exact Bool.noConfusion hother
  have htrim : Text.trimBoth Text.Charset.isLabelBlank label.toList = label.toList :=
    dropWhile_both_eq_self hclear
  rw [Text.Charset.ofLabel?, htrim, String.ofList_toList, hfold]
  decide +kernel

theorem IsWhole.charset_head (h : r.IsWhole) :
    MediaType.charset ((r.head.value? "content-type").bind asText?) = .utf8 := by
  unfold MediaType.charset
  cases hnamed : ((r.head.value? "content-type").bind asText?) with
  | none => rfl
  | some name =>
    obtain ⟨value, hvalue, hname⟩ := Option.bind_eq_some_iff.mp hnamed
    cases hmedia : MediaType.ofText? name with
    | none => simp [hmedia]
    | some mediaType =>
      cases hlabel : mediaType.parameters.lookup "charset" with
      | none => simp [hmedia, hlabel]
      | some label =>
        have hsame := h.charset value hvalue name hname mediaType hmedia label hlabel
        simp [hmedia, hlabel, ofLabel?_of_sameName hsame]

theorem IsWhole.opened?_bytes (h : r.IsWhole) (hfits : r.Fits) (rest : List UInt8)
    (stalls : Bool) : Delivery.opened? ⟨r.bytes ++ rest, stalls⟩ = some (r.head,
      (if SizedReply.isBodiless r.status then .empty else .sized r.text.utf8ByteSize),
      Text.utf8 r.text.toList ++ rest) := by
  rw [bytes, List.append_assoc, h.toIsFinal.opened?_bytes, if_pos hfits, h.framing?_head,
    Option.map_some]

/-- Whatever comes behind a reply, it says what it says. -/
theorem IsWhole.response?_bytes (h : r.IsWhole) (hfits : r.Fits) (rest : List UInt8)
    (stalls : Bool) : Delivery.response? ⟨r.bytes ++ rest, stalls⟩ = some r.response := by
  have hdecoded : Text.Charset.decode .utf8 (Text.utf8 r.text.toList) = r.text.toList :=
    Text.decode_utf8 h.unmarked
  rw [Delivery.response?_of_opened? (h.opened?_bytes hfits rest stalls)]
  unfold bodyText response
  rw [h.charset_head]
  cases hbodiless : SizedReply.isBodiless r.status with
  | true => rfl
  | false =>
    have hlength := Text.length_utf8 r.text
    have hlong : r.text.utf8ByteSize ≤ (Text.utf8 r.text.toList ++ rest).length := by
      rw [List.length_append]
      omega
    have htake : (Text.utf8 r.text.toList ++ rest).take r.text.utf8ByteSize =
        Text.utf8 r.text.toList := by
      rw [← hlength, List.take_left]
    simp only [Bool.false_eq_true, if_false, Framing.read?, if_pos hlong, htake, Option.map_some,
      hdecoded, String.ofList_toList]
    rfl

/-- Nor does it lead anywhere. -/
theorem IsWhole.onward?_bytes (h : r.IsWhole) (hfits : r.Fits) (rest : List UInt8)
    (stalls : Bool) (hop : Hop) : hop.onward? ⟨r.bytes ++ rest, stalls⟩ = none := by
  rw [Hop.onward?, h.opened?_bytes hfits, Option.bind_some]
  exact Hop.next?_eq_none h.settled hop

end WrittenReply

end Http

end SessionGateway
