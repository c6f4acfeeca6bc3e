import Mathlib.Data.List.Infix

/-!
# Slash-separated paths

A path is a text; the slash separates its parts.  A path that begins with a slash
starts at the root and joining it to another path forgets the other one.  A path
leads to a place: the names on the way from the root.  Empty parts and single dots
stay where they are, and two dots go back to the parent.
-/

namespace SlashPath

/-- The names on the way from the root. -/
abbrev Place := List (List Char)

def parts (path : List Char) : List (List Char) := path.splitOn '/'

def isAbsolute (path : List Char) : Bool := path.head? == some '/'

/-- One path below another. -/
def join (base path : List Char) : List Char :=
  if isAbsolute path then
    path
  else if base.getLast?.all (· == '/') then
    base ++ path
  else
    base ++ '/' :: path

/-- Where one part leads. -/
def step (place : Place) (part : List Char) : Place :=
  if part = [] ∨ part = ['.'] then
    place
  else if part = ['.', '.'] then
    place.dropLast
  else
    place ++ [part]

def walk (place : Place) (route : List (List Char)) : Place :=
  route.foldl step place

/-- Where a path leads from a working directory. -/
def resolve (here : Place) (path : List Char) : Place :=
  walk (if isAbsolute path then [] else here) (parts path)

/-- The place is below the directory. -/
def Below (directory place : Place) : Prop :=
  ∃ names, names ≠ [] ∧ place = directory ++ names

/-- A part that leads to a place of its own. -/
def IsName (part : List Char) : Prop :=
  part ≠ [] ∧ '/' ∉ part ∧ part ≠ ['.'] ∧ part ≠ ['.', '.']

instance (part : List Char) : Decidable (IsName part) := by
  unfold IsName
  exact inferInstance

/-! ## Parts -/

@[simp]
theorem walk_append (place : Place) (first second : List (List Char)) :
    walk place (first ++ second) = walk (walk place first) second := by
  rw [walk, walk, walk, List.foldl_append]

@[simp]
theorem parts_append_slash (front back : List Char) :
    parts (front ++ '/' :: back) = parts front ++ parts back :=
  List.splitOn_append_cons_self front back

theorem parts_of_no_slash {path : List Char} (noSlash : '/' ∉ path) : parts path = [path] :=
  List.splitOn_eq_singleton noSlash

theorem isAbsolute_of_no_slash {path : List Char} (noSlash : '/' ∉ path) :
    isAbsolute path = false := by
  cases path with
  | nil => rfl
  | cons symbol rest =>
      have other : symbol ≠ '/' := by
        intro isSlash
        exact noSlash (isSlash ▸ List.mem_cons_self)
      simpa [isAbsolute] using other

@[simp]
theorem isAbsolute_append {front : List Char} (nonempty : front ≠ []) (back : List Char) :
    isAbsolute (front ++ back) = isAbsolute front := by
  cases front with
  | nil => exact absurd rfl nonempty
  | cons symbol rest => rfl

/-! ## Joining -/

/-- A relative path goes on from the place to which the base leads. -/
theorem resolve_join
    (here : Place) (base : List Char) {path : List Char} (relative : isAbsolute path = false) :
    resolve here (join base path) = walk (resolve here base) (parts path) := by
  rw [join, relative, if_neg Bool.false_ne_true]
  split
  · rename_i atEnd
    rcases List.eq_nil_or_concat base with rfl | ⟨front, last, rfl⟩
    · rw [List.nil_append, resolve, relative]
      rfl
    · rw [List.concat_eq_append, List.getLast?_concat] at atEnd
      have isSlash : last = '/' := by simpa using atEnd
      have started : front ++ [last] ≠ [] := by simp
      rw [List.concat_eq_append, resolve, resolve, isAbsolute_append started, isSlash,
        List.append_assoc, List.singleton_append, parts_append_slash, parts_append_slash,
        walk_append, walk_append]
      rfl
  · rename_i goesOn
    have started : base ≠ [] := by
      intro empty
      exact goesOn (empty ▸ rfl)
    rw [resolve, resolve, isAbsolute_append started, parts_append_slash, walk_append]

/-- A text with a longer ending is a name when it has no slash. -/
theorem isName_append
    {stem ending : List Char} (stemNoSlash : '/' ∉ stem) (endingNoSlash : '/' ∉ ending)
    (long : 2 < ending.length) :
    IsName (stem ++ ending) := by
  have length_append : (stem ++ ending).length = stem.length + ending.length :=
    List.length_append
  refine ⟨?_, ?_, ?_, ?_⟩
  · intro empty
    rw [empty] at length_append
    simp only [List.length_nil] at length_append
    omega
  · rw [List.mem_append, not_or]
    exact ⟨stemNoSlash, endingNoSlash⟩
  · intro isDot
    rw [isDot] at length_append
    simp only [List.length_cons, List.length_nil] at length_append
    omega
  · intro areDots
    rw [areDots] at length_append
    simp only [List.length_cons, List.length_nil] at length_append
    omega

/-- The last part of a text with a long ending is a name. -/
theorem parts_append_ending
    (stem : List Char) {ending : List Char} (endingNoSlash : '/' ∉ ending)
    (long : 2 < ending.length) :
    ∃ front name, parts (stem ++ ending) = front ++ [name] ∧ IsName name := by
  by_cases slash : '/' ∈ stem
  · obtain ⟨back, front, reversed, backNoSlash⟩ :=
      List.eq_append_cons_of_mem (List.mem_reverse.mpr slash)
    have split : stem = front.reverse ++ '/' :: back.reverse := by
      rw [← List.reverse_reverse stem, reversed]
      simp
    have isName : IsName (back.reverse ++ ending) :=
      isName_append (fun member => backNoSlash (List.mem_reverse.mp member)) endingNoSlash long
    refine ⟨parts front.reverse, back.reverse ++ ending, ?_, isName⟩
    rw [split, List.append_assoc, List.cons_append, parts_append_slash,
      parts_of_no_slash isName.2.1]
  · have isName := isName_append slash endingNoSlash long
    exact ⟨[], stem ++ ending, parts_of_no_slash isName.2.1, isName⟩

theorem step_of_isName (place : Place) {name : List Char} (isName : IsName name) :
    step place name = place ++ [name] := by
  obtain ⟨nonempty, -, notDot, notDots⟩ := isName
  rw [step, if_neg (not_or.mpr ⟨nonempty, notDot⟩), if_neg notDots]

/-- Names are followed one by one. -/
theorem walk_names (place : Place) {route : List (List Char)}
    (names : ∀ part ∈ route, IsName part) :
    walk place route = place ++ route := by
  induction route generalizing place with
  | nil => exact (List.append_nil place).symm
  | cons part rest inductionHypothesis =>
      have restNames : ∀ other ∈ rest, IsName other := fun other member =>
        names other (List.mem_cons_of_mem part member)
      rw [walk, List.foldl_cons, step_of_isName place (names part List.mem_cons_self)]
      have walked := inductionHypothesis (place ++ [part]) restNames
      rw [List.append_assoc] at walked
      exact walked

/-! ## Joining several pieces -/

/-- Relative pieces lead on from the base, part by part. -/
theorem resolve_foldl_join
    (here : Place) (base : List Char) {pieces : List (List Char)}
    (relative : ∀ piece ∈ pieces, isAbsolute piece = false) :
    resolve here (pieces.foldl join base) = walk (resolve here base) (pieces.flatMap parts) := by
  induction pieces generalizing base with
  | nil => rfl
  | cons piece rest inductionHypothesis =>
      have restRelative : ∀ other ∈ rest, isAbsolute other = false := fun other member =>
        relative other (List.mem_cons_of_mem piece member)
      rw [List.foldl_cons, inductionHypothesis (join base piece) restRelative,
        resolve_join here base (relative piece List.mem_cons_self), List.flatMap_cons, walk_append]

/-- An absolute piece makes the place the same from everywhere. -/
theorem exists_resolve_foldl_join
    {pieces : List (List Char)}
    (notRelative : ¬ ∀ piece ∈ pieces, isAbsolute piece = false) :
    ∃ place, ∀ here base, resolve here (pieces.foldl join base) = place := by
  induction pieces with
  | nil => exact absurd (fun piece member => nomatch member) notRelative
  | cons first rest inductionHypothesis =>
      by_cases restRelative : ∀ other ∈ rest, isAbsolute other = false
      · have absolute : isAbsolute first = true := by
          by_contra relative
          apply notRelative
          intro piece member
          rcases List.mem_cons.mp member with rfl | inRest
          · exact Bool.eq_false_iff.mpr relative
          · exact restRelative piece inRest
        refine ⟨walk (walk [] (parts first)) (rest.flatMap parts), ?_⟩
        intro here base
        rw [List.foldl_cons, resolve_foldl_join here _ restRelative, join, if_pos absolute,
          resolve, if_pos absolute]
      · obtain ⟨place, same⟩ := inductionHypothesis restRelative
        exact ⟨place, fun here base => same here (join base first)⟩

/-! ## Staying below a directory -/

/-- A route that begins so many names below a directory never leaves it. -/
def stays : Nat → List (List Char) → Bool
  | _, [] => true
  | depth, part :: rest =>
      if part = [] ∨ part = ['.'] then
        stays depth rest
      else if part = ['.', '.'] then
        decide (0 < depth) && stays (depth - 1) rest
      else
        stays (depth + 1) rest

/-- Below its directory a route leads where it leads from the root. -/
theorem walk_of_stays
    (directory names : Place) {route : List (List Char)}
    (staysBelow : stays names.length route = true) :
    walk (directory ++ names) route = directory ++ walk names route := by
  induction route generalizing names with
  | nil => rfl
  | cons part rest inductionHypothesis =>
      rw [stays] at staysBelow
      rw [walk, walk, List.foldl_cons, List.foldl_cons, step, step]
      split at staysBelow
      · rename_i still
        rw [if_pos still, if_pos still]
        exact inductionHypothesis names staysBelow
      · rename_i moves
        rw [if_neg moves, if_neg moves]
        split at staysBelow
        · rename_i back
          rw [Bool.and_eq_true, decide_eq_true_eq] at staysBelow
          have started : names ≠ [] := List.ne_nil_of_length_pos staysBelow.1
          rw [if_pos back, if_pos back, List.dropLast_append_of_ne_nil started]
          exact inductionHypothesis names.dropLast (by
            rw [List.length_dropLast]
            exact staysBelow.2)
        · rename_i forth
          rw [if_neg forth, if_neg forth, List.append_assoc]
          exact inductionHypothesis (names ++ [part]) (by
            rw [List.length_append]
            exact staysBelow)

/-- A route leads only through its own names. -/
theorem not_mem_walk
    {fresh : List Char} {place : Place} {route : List (List Char)}
    (notAbove : fresh ∉ place) (notOnRoute : fresh ∉ route) :
    fresh ∉ walk place route := by
  induction route generalizing place with
  | nil => exact notAbove
  | cons part rest inductionHypothesis =>
      rw [List.mem_cons, not_or] at notOnRoute
      rw [walk, List.foldl_cons]
      refine inductionHypothesis ?_ notOnRoute.2
      rw [step]
      split
      · exact notAbove
      · split
        · exact fun member => notAbove (List.mem_of_mem_dropLast member)
        · rw [List.mem_append, List.mem_singleton, not_or]
          exact ⟨notAbove, notOnRoute.1⟩

/-- A route that leaves its directory forgets the name of the directory. -/
theorem not_mem_walk_of_leaves
    {fresh : List Char} {names : Place} {route : List (List Char)}
    (leaves : stays names.length route = false)
    (notAName : fresh ∉ names) (notOnRoute : fresh ∉ route) :
    fresh ∉ walk (fresh :: names) route := by
  induction route generalizing names with
  | nil => cases leaves
  | cons part rest inductionHypothesis =>
      have restOnRoute : fresh ∉ rest := fun member =>
        notOnRoute (List.mem_cons_of_mem part member)
      rw [stays] at leaves
      rw [walk, List.foldl_cons, step]
      split at leaves
      · rename_i still
        rw [if_pos still]
        exact inductionHypothesis leaves notAName restOnRoute
      · rename_i moves
        rw [if_neg moves]
        split at leaves
        · rename_i back
          rw [if_pos back]
          cases names with
          | nil => exact not_mem_walk List.not_mem_nil restOnRoute
          | cons first more =>
              rw [List.dropLast_cons_cons]
              refine inductionHypothesis ?_ ?_ restOnRoute
              · rw [List.length_dropLast]
                simpa using leaves
              · exact fun member => notAName (List.mem_of_mem_dropLast member)
        · rename_i forth
          rw [if_neg forth, List.cons_append]
          refine inductionHypothesis ?_ ?_ restOnRoute
          · rw [List.length_append]
            exact leaves
          · rw [List.mem_append, List.mem_singleton, not_or]
            refine ⟨notAName, ?_⟩
            rintro rfl
            exact notOnRoute List.mem_cons_self

/-- There is a name that a route does not use. -/
theorem exists_unused (route : List (List Char)) : ∃ fresh, fresh ∉ route := by
  refine ⟨'x' :: route.flatten, ?_⟩
  intro member
  have short := (List.sublist_flatten_of_mem member).length_le
  rw [List.length_cons] at short
  omega

/-- A route leads below every directory when, and only when, it never leaves it and
leads on from it. -/
theorem below_iff (route : List (List Char)) :
    (∀ directory, Below directory (walk directory route)) ↔
      stays 0 route = true ∧ walk [] route ≠ [] := by
  constructor
  · intro below
    have staysBelow : stays 0 route = true := by
      by_contra leaves
      obtain ⟨fresh, notOnRoute⟩ := exists_unused route
      have forgotten :=
        @not_mem_walk_of_leaves fresh [] route (Bool.eq_false_iff.mpr leaves) List.not_mem_nil
          notOnRoute
      obtain ⟨names, -, place⟩ := below [fresh]
      rw [place] at forgotten
      exact forgotten List.mem_cons_self
    refine ⟨staysBelow, ?_⟩
    obtain ⟨names, nonempty, place⟩ := below []
    rw [place]
    exact nonempty
  · rintro ⟨staysBelow, leadsOn⟩ directory
    have place := walk_of_stays directory [] staysBelow
    rw [List.append_nil] at place
    exact ⟨walk [] route, leadsOn, place⟩

end SlashPath
