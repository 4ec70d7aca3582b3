import Mathlib.Data.List.TakeWhile
import SessionGateway.Json.Reader
import SessionGateway.Json.Writer

/-! JSON texts as tokens with blanks between them. A value has one sequence of tokens, and all its
layouts are these tokens with blanks around them. -/

namespace SessionGateway

namespace JsonText

/-- Blanks say nothing between tokens. -/
abbrev AllBlank (cs : List Char) : Prop := ∀ c ∈ cs, isBlank c = true

/-- The tokens one after the other, with any blanks before, between and after them. -/
inductive Spaced : List (List Char) → List Char → Prop where
  | last {blanks : List Char} (hblank : AllBlank blanks) : Spaced [] blanks
  | token {blanks rest : List Char} {tokens : List (List Char)} (hblank : AllBlank blanks)
      (token : List Char) (hrest : Spaced tokens rest) :
      Spaced (token :: tokens) (blanks ++ (token ++ rest))

end JsonText

namespace Json

mutual

/-- The tokens of a value. -/
def tokens : Json → List (List Char)
  | null => ["null".toList]
  | bool b => [if b then "true".toList else "false".toList]
  | integer i => [(toString i).toList]
  | real x => [writeReal x]
  | string s => [writeString s]
  | array [] => [['['], [']']]
  | array (v :: items) => ['['] :: (v.tokens ++ (itemTokens items ++ [[']']]))
  | object [] => [['\x7b'], ['\x7d']]
  | object ((k, v) :: members) =>
    ['\x7b'] :: writeString k :: [':'] :: (v.tokens ++ (memberTokens members ++ [['\x7d']]))

/-- The tokens of the items after the first. -/
def itemTokens : List Json → List (List Char)
  | [] => []
  | v :: items => [','] :: (v.tokens ++ itemTokens items)

/-- The tokens of the members after the first. -/
def memberTokens : List (String × Json) → List (List Char)
  | [] => []
  | (k, v) :: members => [','] :: writeString k :: [':'] :: (v.tokens ++ memberTokens members)

end

/-- Values without reals as programs hold them: integers have 64 bits, members stand in the order of
their keys, and containers are nested at most so deep. -/
inductive Plain : Nat → Json → Prop where
  | null (depth : Nat) : Plain depth null
  | bool (depth : Nat) (b : Bool) : Plain depth (bool b)
  | integer (depth : Nat) {i : Int} (hrange : InRange i) : Plain depth (integer i)
  | string (depth : Nat) (s : String) : Plain depth (string s)
  | array {depth : Nat} {items : List Json} (hitems : ∀ v ∈ items, Plain depth v) :
      Plain (depth + 1) (array items)
  | object {depth : Nat} {members : Members} (hkeys : members.Pairwise fun a b => a.1 < b.1)
      (hmembers : ∀ m ∈ members, Plain depth m.2) : Plain (depth + 1) (object members)

end Json

namespace JsonText

open Json

theorem skipBlanks_append {blanks : List Char} (hblank : AllBlank blanks) (cs : List Char) :
    skipBlanks (blanks ++ cs) = skipBlanks cs := List.dropWhile_append_of_pos hblank

namespace Spaced

variable {tokens more : List (List Char)} {cs ds : List Char}

theorem blanks_append {blanks : List Char} (hblank : AllBlank blanks) (h : Spaced tokens cs) :
    Spaced tokens (blanks ++ cs) := by
  cases h with
  | last hcs =>
    refine .last fun c hc => ?_
    exact (List.mem_append.mp hc).elim (hblank c) (hcs c)
  | @token front rest tokens hfront token hrest =>
    rw [← List.append_assoc]
    refine .token (fun c hc => ?_) token hrest
    exact (List.mem_append.mp hc).elim (hblank c) (hfront c)

theorem append (h : Spaced tokens cs) (hmore : Spaced more ds) :
    Spaced (tokens ++ more) (cs ++ ds) := by
  induction h with
  | last hblank => exact hmore.blanks_append hblank
  | token hblank token _ ih =>
    simp only [List.append_assoc]
    exact .token hblank token ih

theorem blank (hblank : AllBlank cs) : Spaced [] cs := .last hblank

theorem cons (token : List Char) (h : Spaced tokens cs) : Spaced (token :: tokens) (token ++ cs) :=
  .token (List.forall_mem_nil _) token h

theorem single (token : List Char) : Spaced [token] token := by
  simpa using cons token (.last (List.forall_mem_nil _))

/-- Behind the blanks comes the first token, if it does not start with a blank itself. -/
theorem skipBlanks_cons {c : Char} {token : List Char} (hc : isBlank c = false)
    (h : Spaced ((c :: token) :: tokens) cs) :
    ∃ rest, JsonText.skipBlanks cs = c :: (token ++ rest) ∧ Spaced tokens rest ∧
      token.length + rest.length < cs.length := by
  cases h with
  | token hblank _ hrest =>
    refine ⟨_, ?_, hrest, ?_⟩
    · rw [skipBlanks_append hblank, JsonText.skipBlanks, List.cons_append,
        List.dropWhile_cons_of_neg (by simp [hc])]
    · simp only [List.length_append, List.length_cons]
      omega

theorem skipBlanks_nil (h : Spaced [] cs) : JsonText.skipBlanks cs = [] := by
  cases h with
  | last hblank => exact List.dropWhile_eq_nil_iff.mpr hblank

end Spaced

end JsonText

open JsonText

/-- A layout whose blanks say nothing. -/
structure JsonLayout.IsBlank (layout : JsonLayout) : Prop where
  lineBreak : ∀ depth, AllBlank (layout.lineBreak depth)
  afterColon : AllBlank layout.afterColon

theorem JsonLayout.isBlank_compact : compact.IsBlank :=
  ⟨fun _ => List.forall_mem_nil _, List.forall_mem_nil _⟩

theorem JsonLayout.isBlank_spread : spread.IsBlank := by
  constructor
  · intro depth c hc
    simp only [spread, List.mem_cons, List.mem_replicate] at hc
    rcases hc with rfl | ⟨-, rfl⟩ <;> decide
  · rintro c hc
    rw [List.mem_singleton.mp hc]
    decide

namespace Json

variable {layout : JsonLayout}

mutual

/-- Every layout writes the tokens of a value. -/
theorem spaced_write (hlayout : layout.IsBlank) (depth : Nat) :
    (v : Json) → Spaced v.tokens (write layout depth v)
  | null => .single _
  | bool _ => .single _
  | integer _ => .single _
  | real _ => .single _
  | string _ => .single _
  | array [] => (Spaced.single ['[']).append (.single [']'])
  | array (v :: items) => by
    have hopen := (Spaced.single ['[']).append (.blank (hlayout.lineBreak (depth + 1)))
    have hclose := (Spaced.single [']']).blanks_append (hlayout.lineBreak depth)
    have hitems := (spaced_writeItems hlayout (depth + 1) items).append hclose
    simpa [write, tokens] using hopen.append ((spaced_write hlayout (depth + 1) v).append hitems)
  | object [] => (Spaced.single ['\x7b']).append (.single ['\x7d'])
  | object ((k, v) :: members) => by
    have hopen := (Spaced.single ['\x7b']).append (.blank (hlayout.lineBreak (depth + 1)))
    have hkey := (Spaced.single (writeString k)).append
      ((Spaced.single [':']).append (.blank hlayout.afterColon))
    have hclose := (Spaced.single ['\x7d']).blanks_append (hlayout.lineBreak depth)
    have hmembers := (spaced_writeMembers hlayout (depth + 1) members).append hclose
    simpa [write, tokens] using
      hopen.append (hkey.append ((spaced_write hlayout (depth + 1) v).append hmembers))

theorem spaced_writeItems (hlayout : layout.IsBlank) (depth : Nat) :
    (items : List Json) → Spaced (itemTokens items) (writeItems layout depth items)
  | [] => .blank (List.forall_mem_nil _)
  | v :: items => by
    have hcomma := (Spaced.single [',']).append (.blank (hlayout.lineBreak depth))
    simpa [writeItems, itemTokens] using
      hcomma.append ((spaced_write hlayout depth v).append (spaced_writeItems hlayout depth items))

theorem spaced_writeMembers (hlayout : layout.IsBlank) (depth : Nat) :
    (members : List (String × Json)) →
      Spaced (memberTokens members) (writeMembers layout depth members)
  | [] => .blank (List.forall_mem_nil _)
  | (k, v) :: members => by
    have hcomma := (Spaced.single [',']).append (.blank (hlayout.lineBreak depth))
    have hkey := (Spaced.single (writeString k)).append
      ((Spaced.single [':']).append (.blank hlayout.afterColon))
    simpa [writeMembers, memberTokens] using hcomma.append (hkey.append
      ((spaced_write hlayout depth v).append (spaced_writeMembers hlayout depth members)))

end

mutual

/-- The compact layout writes the tokens alone. -/
theorem write_compact (depth : Nat) : (v : Json) → write .compact depth v = v.tokens.flatten
  | null | bool _ | integer _ | real _ | string _ => (List.append_nil _).symm
  | array [] => rfl
  | array (v :: items) => by
    simp [write, tokens, JsonLayout.compact, ← write_compact (depth + 1) v,
      ← writeItems_compact (depth + 1) items]
  | object [] => rfl
  | object ((k, v) :: members) => by
    simp [write, tokens, JsonLayout.compact, ← write_compact (depth + 1) v,
      ← writeMembers_compact (depth + 1) members]

theorem writeItems_compact (depth : Nat) :
    (items : List Json) → writeItems .compact depth items = (itemTokens items).flatten
  | [] => rfl
  | v :: items => by
    simp [writeItems, itemTokens, JsonLayout.compact, ← write_compact depth v,
      ← writeItems_compact depth items]

theorem writeMembers_compact (depth : Nat) : (members : List (String × Json)) →
    writeMembers .compact depth members = (memberTokens members).flatten
  | [] => rfl
  | (k, v) :: members => by
    simp [writeMembers, memberTokens, JsonLayout.compact, ← write_compact depth v,
      ← writeMembers_compact depth members]

end

theorem toList_text (v : Json) : v.text.toList = v.tokens.flatten := by
  rw [text, String.toList_ofList, write_compact]

end Json

end SessionGateway
