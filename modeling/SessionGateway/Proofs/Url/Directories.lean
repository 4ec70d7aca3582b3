import SessionGateway.Proofs.Url.Gluing

/-! Where a path leads that goes on behind another one. All segments before the last slash make
directories, and these do not depend on what comes behind them. -/

namespace SessionGateway.Url

theorem splitAtChar_ne_nil (p : Char → Bool) (cs : List Char) : Text.splitAtChar p cs ≠ [] := by
  cases cs with
  | nil => simp [Text.splitAtChar]
  | cons c cs =>
    simp only [Text.splitAtChar]
    split
    · simp
    · split <;> simp

theorem splitAtChar_append {c : Char} {p : Char → Bool} (hc : p c = true) (front back : List Char) :
    Text.splitAtChar p (front ++ c :: back) =
      Text.splitAtChar p front ++ Text.splitAtChar p back := by
  induction front with
  | nil => simp [Text.splitAtChar, hc]
  | cons d front ih =>
    obtain ⟨piece, pieces, hpieces⟩ := List.exists_cons_of_ne_nil (splitAtChar_ne_nil p front)
    simp only [List.cons_append, Text.splitAtChar, ih, hpieces]
    split <;> rfl

theorem splitAtChar_slashes (n : Nat) :
    Text.splitAtChar (isSlash true) (List.replicate n '/') = List.replicate (n + 1) [] := by
  induction n with
  | zero => rfl
  | succ n ih =>
    have hslash : isSlash true '/' = true := rfl
    rw [List.replicate_succ, Text.splitAtChar, if_pos hslash, ih, ← List.replicate_succ]

/-- The directories after one more segment. -/
def enter (dirs : List String) (segment : List Char) : List String :=
  if dotsOf segment = ['.', '.'] then parent dirs
  else if dotsOf segment = ['.'] then dirs
  else dirs ++ [encodeSegment segment]

/-- The directories that a path leads into when a slash is put behind it. -/
def directories : List Char → List String
  | [] => []
  | _ :: rest => (Text.splitAtChar (isSlash true) rest).foldl enter []

theorem walkSegments_append {back : List (List Char)} (hback : back ≠ []) (start : List String)
    (front : List (List Char)) : walkSegments false start (front ++ back) =
      walkSegments false (front.foldl enter start) back := by
  induction front generalizing start with
  | nil => rfl
  | cons segment front ih =>
    have hlast : (front ++ back).isEmpty = false := by simp [hback]
    simp only [List.cons_append, walkSegments, hlast, Bool.false_and, Bool.false_eq_true,
      ↓reduceIte, ih, List.foldl_cons, enter]
    split_ifs <;> rfl

theorem walkSegments_slashes (start : List String) (n : Nat) :
    walkSegments false start (List.replicate n []) = start ++ List.replicate n "" := by
  induction n generalizing start with
  | zero => simp [walkSegments]
  | succ n ih =>
    have hname : walkSegments false start ([] :: List.replicate n []) =
        walkSegments false (start ++ [""]) (List.replicate n []) := rfl
    rw [List.replicate_succ, hname, ih, List.replicate_succ, List.append_assoc]
    rfl

def pathText (segments : List String) : String := (UrlPath.segments segments).text

theorem pathText_append (front back : List String) :
    pathText (front ++ back) = pathText front ++ pathText back := by
  simp [pathText, UrlPath.text]

theorem pathText_slashes (n : Nat) :
    pathText (List.replicate n "") = String.ofList (List.replicate n '/') := by
  induction n with
  | zero => rfl
  | succ n ih =>
    have hnames : List.replicate (n + 1) "" = [""] ++ List.replicate n "" := rfl
    have hslashes : List.replicate (n + 1) '/' = ['/'] ++ List.replicate n '/' := rfl
    rw [hnames, pathText_append, ih, hslashes, String.ofList_append]
    rfl

section Read

variable {scheme : String} (hweb : scheme = "http" ∨ scheme = "https")
include hweb

theorem readSegments_eq (cs : List Char) : readSegments scheme cs = walkSegments false []
    (Text.splitAtChar (isSlash true) (match cs with
      | c :: rest => if isSlash true c then rest else c :: rest
      | [] => [])) := by
  rcases hweb with rfl | rfl <;> rfl

/-- Behind a path with a slash, another one starts in its directories. -/
theorem readSegments_append {front : List Char} (hfront : ∀ c ∈ front.head?, isSlash true c = true)
    (back : List Char) : readSegments scheme (front ++ '/' :: back) =
      walkSegments false (directories front) (Text.splitAtChar (isSlash true) back) := by
  have hslash : isSlash true '/' = true := rfl
  rw [readSegments_eq hweb]
  cases front with
  | nil => simp [hslash, directories]
  | cons c front =>
    have hc := hfront c rfl
    simp only [List.cons_append, hc, ↓reduceIte, directories]
    rw [splitAtChar_append hslash, walkSegments_append (splitAtChar_ne_nil _ _)]

/-- With slashes behind it or without, a path is that of its directories but for slashes at its
end. -/
theorem pathText_readSegments {front : List Char}
    (hfront : ∀ c ∈ front.head?, isSlash true c = true) (n : Nat) :
    ∃ k, pathText (readSegments scheme (front ++ List.replicate n '/')) =
      pathText (directories front) ++ String.ofList (List.replicate k '/') := by
  have hnamed (dirs : List String) (k : Nat) : pathText (dirs ++ List.replicate k "") =
      pathText dirs ++ String.ofList (List.replicate k '/') := by
    rw [pathText_append, pathText_slashes]
  cases n with
  | succ n =>
    refine ⟨n + 1, ?_⟩
    rw [List.replicate_succ, readSegments_append hweb hfront, splitAtChar_slashes,
      walkSegments_slashes, hnamed]
    rfl
  | zero =>
    rw [List.replicate_zero, List.append_nil, readSegments_eq hweb]
    cases front with
    | nil => exact ⟨1, rfl⟩
    | cons c front =>
      have hc := hfront c rfl
      obtain ⟨pieces, last, hpieces⟩ := (List.eq_nil_or_concat _).resolve_left
        (splitAtChar_ne_nil (isSlash true) front)
      rw [List.concat_eq_append] at hpieces
      simp only [hc, ↓reduceIte, directories, hpieces, List.foldl_append, List.foldl_cons,
        List.foldl_nil]
      rw [walkSegments_append (by simp)]
      -- a last segment that is no name leaves the slash behind the directories, a name leaves none
      simp only [walkSegments, enter, List.isEmpty_nil, ↓reduceIte, Bool.false_and,
        Bool.false_eq_true]
      split_ifs
      · exact ⟨1, hnamed _ 1⟩
      · exact ⟨1, hnamed _ 1⟩
      · exact ⟨0, by simp⟩

end Read

section Finish

variable {v : Url} (hweb : v.scheme = "http" ∨ v.scheme = "https")
include hweb

theorem finish_eq (cs : List Char) : finish v cs =
    let ending := readQueryFragment true (cs.dropWhile fun c => !endsPath c)
    { v with
      path := .segments (readSegments v.scheme (cs.takeWhile fun c => !endsPath c))
      query := ending.1, fragment := ending.2 } := by
  have hspecial : v.isSpecial = true := by
    rcases hweb with h | h <;> simp [isSpecial, isSpecialScheme, defaultPort?, h]
  have hfile : v.scheme ≠ "file" := by rcases hweb with h | h <;> simp [h]
  simp [finish, hspecial, hfile]

/-- What comes behind a place leaves it alone. -/
theorem finish_place (cs : List Char) : (finish v cs).scheme = v.scheme ∧
    (finish v cs).host = v.host ∧ (finish v cs).effectivePort = v.effectivePort := by
  rw [finish_eq hweb]
  exact ⟨rfl, rfl, rfl⟩

theorem effectivePort_of_web : ∃ port, v.effectivePort = some port := by
  rcases hweb with hs | hs <;> cases hport : v.port <;>
    simp [effectivePort, defaultPort?, hs, hport]

/-- Without a mark that ends it, all of the rest is the path. -/
theorem finish_of_path {cs : List Char} (h : ∀ c ∈ cs, endsPath c = false) :
    finish v cs = { v with
      path := .segments (readSegments v.scheme cs), query := none, fragment := none } := by
  have hall : ∀ c ∈ cs, (!endsPath c) = true := fun c hc => by rw [h c hc]; rfl
  have htake : cs.takeWhile (fun c => !endsPath c) = cs := List.takeWhile_eq_self_iff.mpr hall
  have hdrop : cs.dropWhile (fun c => !endsPath c) = [] := List.dropWhile_eq_nil_iff.mpr hall
  simp only [finish_eq hweb, htake, hdrop]
  rfl

/-- What comes behind the mark that ends a path does not change the path, -/
theorem path_finish_append {cs : List Char} (h : ∃ c ∈ cs, endsPath c = true) (more : List Char) :
    (finish v (cs ++ more)).path = (finish v cs).path := by
  have hend : cs.dropWhile (fun c => !endsPath c) ≠ [] := by
    obtain ⟨c, hc, hmark⟩ := h
    intro hnil
    simpa [hmark] using List.dropWhile_eq_nil_iff.mp hnil c hc
  simp only [finish_eq hweb, (takeWhile_append_of_dropWhile hend more).1]

/-- and the mark begins a query or a fragment. -/
theorem query_finish {cs : List Char} (h : ∃ c ∈ cs, endsPath c = true) :
    (finish v cs).query.isSome = true ∨ (finish v cs).fragment.isSome = true := by
  obtain ⟨c, hc, hmark⟩ := h
  simp only [finish_eq hweb]
  cases hdrop : cs.dropWhile (fun c => !endsPath c) with
  | nil =>
    have hnone := List.dropWhile_eq_nil_iff.mp hdrop c hc
    simp [hmark] at hnone
  | cons d rest =>
    have hd := List.head?_dropWhile_not (fun c => !endsPath c) cs
    rw [hdrop] at hd
    have hend : d = '?' ∨ d = '#' := or_iff_not_imp_left.mpr (by simpa [endsPath] using hd)
    rcases hend with rfl | rfl
    · left
      simp only [readQueryFragment]
      split <;> rfl
    · exact .inr rfl

end Finish

/-! ## Behind a text -/

namespace StandsAt

variable {base : String} {n : Nat} {v : Url} {q w : List Char} (h : StandsAt base n v q w)
include h

/-- A text with a mark that ends its path keeps the path, whatever is put behind it. -/
theorem path_of_ended (hq : ∃ c ∈ q, endsPath c = true) (t : List Char) :
    (finish v (q ++ (w ++ t))).path = (finish v (q ++ List.replicate n '/')).path := by
  rw [path_finish_append h.web hq, path_finish_append h.web hq]

theorem slash_of_open (hq : ∀ c ∈ q, endsPath c = false) :
    ∀ c ∈ (q ++ w).head?, isSlash true c = true := by
  intro c hc
  cases q with
  | nil =>
    simp [h.beyond rfl] at hc
  | cons d q =>
    obtain rfl := Option.some.inj hc
    have hend := h.ends d rfl
    rwa [endsAuthority, hq d List.mem_cons_self, Bool.or_false] at hend

/-- A path that is put behind another one goes on in the directories of that. -/
theorem finish_of_open (hq : ∀ c ∈ q, endsPath c = false) {more : List Char}
    (hmore : IsTail ('/' :: more)) : finish v (q ++ (w ++ '/' :: more)) = { v with
      path := .segments (walkSegments false (directories (q ++ w))
        (Text.splitAtChar (isSlash true) more))
      query := none, fragment := none } := by
  obtain ⟨_, hsame, hclear⟩ := hmore
  obtain rfl := List.tail_eq_of_cons_eq hsame
  have hall : ∀ c ∈ q ++ w ++ '/' :: more, endsPath c = false := by
    intro c hc
    simp only [List.mem_append, List.mem_cons] at hc
    rcases hc with (hc | hc) | rfl | hc
    · exact hq c hc
    · have hquery : c ≠ '?' := (h.low c hc).ne (by decide)
      have hhash : c ≠ '#' := (h.low c hc).ne (by decide)
      simp [endsPath, hquery, hhash]
    · rfl
    · exact (hclear c hc).2
  rw [← List.append_assoc, finish_of_path h.web hall,
    readSegments_append h.web (h.slash_of_open hq)]

omit h in
theorem endsPath_of_open (hq : ∀ c ∈ q, endsPath c = false) :
    ∀ c ∈ q ++ List.replicate n '/', endsPath c = false := by
  intro c hc
  rcases List.mem_append.mp hc with hc | hc
  · exact hq c hc
  · rw [List.eq_of_mem_replicate hc]
    rfl

/-- By itself, the text has the path of these directories but for slashes at its end. -/
theorem path_of_open (hq : ∀ c ∈ q, endsPath c = false) (hw : w = []) :
    ∃ k, (finish v (q ++ List.replicate n '/')).path.text =
      pathText (directories (q ++ w)) ++ String.ofList (List.replicate k '/') := by
  have hslash := h.slash_of_open hq
  rw [hw, List.append_nil] at hslash ⊢
  rw [finish_of_path h.web (endsPath_of_open hq)]
  exact pathText_readSegments h.web hslash n

/-- Only a mark that ends the path begins a query or a fragment. -/
theorem forall_open_iff : (∀ c ∈ q, endsPath c = false) ↔
    let u := finish v (q ++ List.replicate n '/')
    u.query = none ∧ u.fragment = none := by
  constructor
  · intro hq
    rw [finish_of_path h.web (endsPath_of_open hq)]
    exact ⟨rfl, rfl⟩
  · rintro ⟨hquery, hfragment⟩ c hc
    by_contra hmark
    have hmarked : ∃ c ∈ q ++ List.replicate n '/', endsPath c = true :=
      ⟨c, List.mem_append_left _ hc, by simpa using hmark⟩
    simpa [hquery, hfragment] using query_finish h.web hmarked

end StandsAt

end SessionGateway.Url
