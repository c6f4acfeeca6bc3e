import Chaft.Library.Text
import Mathlib

/-!
# Texts in parts

How trimming and cutting act on texts that are put together from parts: a
text whose ends are no white space is its own trimmed form, a list of parts
joined by a separator that none of them holds splits into them again, and
cutting the joined text at a mark cuts the part that holds the mark first.
-/

namespace Text

/-! ## Trimming -/

/-- A text that neither begins nor ends with white space. -/
structure TightEnds (text : List Char) : Prop where
  first : ∀ symbol ∈ text.head?, isWhiteSpace symbol = false
  last : ∀ symbol ∈ text.getLast?, isWhiteSpace symbol = false

private theorem dropWhile_of_first
    {text : List Char} (first : ∀ symbol ∈ text.head?, isWhiteSpace symbol = false) :
    text.dropWhile isWhiteSpace = text := by
  cases text with
  | nil => rfl
  | cons symbol rest => simp [first symbol rfl]

theorem trim_eq_self {text : List Char} (tight : TightEnds text) : trim text = text := by
  have reversed : text.reverse.dropWhile isWhiteSpace = text.reverse :=
    dropWhile_of_first (by simpa using tight.last)
  rw [trim, dropWhile_of_first tight.first, reversed, List.reverse_reverse]

theorem tightEnds_trim (text : List Char) : TightEnds (trim text) where
  first := by
    intro symbol isFirst
    have front : (trim text).IsPrefix (text.dropWhile isWhiteSpace) := by
      have back := List.dropWhile_suffix (l := (text.dropWhile isWhiteSpace).reverse)
        isWhiteSpace
      have turned := List.reverse_prefix.2 back
      rwa [List.reverse_reverse] at turned
    obtain ⟨rest, whole⟩ := front
    have kept : (text.dropWhile isWhiteSpace).head? = some symbol := by
      rw [← whole, List.head?_append, isFirst]
      rfl
    have known := List.head?_dropWhile_not isWhiteSpace text
    rw [kept] at known
    simpa using known
  last := by
    intro symbol isLast
    have known := List.head?_dropWhile_not isWhiteSpace
      (text.dropWhile isWhiteSpace).reverse
    rw [trim, List.getLast?_reverse] at isLast
    rw [isLast] at known
    simpa using known

theorem trim_trim (text : List Char) : trim (trim text) = trim text :=
  trim_eq_self (tightEnds_trim text)

theorem tightEnds_of_trim {text : List Char} (trimmed : trim text = text) : TightEnds text :=
  trimmed ▸ tightEnds_trim text

/-- A text without white space is tight. -/
theorem tightEnds_of_all
    {text : List Char} (solid : ∀ symbol ∈ text, isWhiteSpace symbol = false) :
    TightEnds text where
  first symbol isFirst := solid symbol (List.mem_of_mem_head? isFirst)
  last symbol isLast := solid symbol (List.mem_of_getLast? isLast)

theorem tightEnds_of_noSpace
    {text : List Char} (noSpace : text.any isWhiteSpace = false) : TightEnds text :=
  tightEnds_of_all fun symbol inside =>
    Bool.eq_false_iff.2 (List.any_eq_false.1 noSpace symbol inside)

/-- The outer ends of two tight texts are the ends of their whole. -/
theorem TightEnds.append
    {front back : List Char} (tightFront : TightEnds front) (tightBack : TightEnds back) :
    TightEnds (front ++ back) where
  first symbol isFirst := by
    cases front with
    | nil => exact tightBack.first symbol isFirst
    | cons first rest => exact tightFront.first symbol isFirst
  last symbol isLast := by
    by_cases empty : back = []
    · rw [empty, List.append_nil] at isLast
      exact tightFront.last symbol isLast
    · rw [List.getLast?_append_of_ne_nil _ empty] at isLast
      exact tightBack.last symbol isLast

theorem toNat_le_of_le {low high : Char} (below : low ≤ high) : low.toNat ≤ high.toNat :=
  UInt32.le_iff_toNat_le.1 (Char.le_def.1 below)

/-- The visible symbols of ASCII. -/
theorem not_whiteSpace_of_visible
    {symbol : Char} (above : 0x20 < symbol.toNat) (below : symbol.toNat ≤ 0x7F) :
    isWhiteSpace symbol = false := by
  have codes : isWhiteSpace symbol = true → symbol.toNat ≤ 0x20 ∨ 0x7F < symbol.toNat := by
    simp only [isWhiteSpace, Bool.or_eq_true, Bool.and_eq_true, decide_eq_true_eq, beq_iff_eq]
    omega
  cases space : isWhiteSpace symbol with
  | false => rfl
  | true =>
      have outside := codes space
      omega

theorem not_whiteSpace_of_isAlphanum
    {symbol : Char} (alphanumeric : symbol.isAlphanum = true) : isWhiteSpace symbol = false := by
  have upper : symbol.isUpper = true → 'A'.val ≤ symbol.val ∧ symbol.val ≤ 'Z'.val :=
    of_decide_eq_true
  have lower : symbol.isLower = true → 'a'.val ≤ symbol.val ∧ symbol.val ≤ 'z'.val := by
    intro isLower
    have bounds := (Bool.and_eq_true _ _).mp isLower
    exact ⟨of_decide_eq_true bounds.1, of_decide_eq_true bounds.2⟩
  have digit : symbol.isDigit = true → '0'.val ≤ symbol.val ∧ symbol.val ≤ '9'.val := by
    intro isDigit
    have bounds := (Bool.and_eq_true _ _).mp isDigit
    exact ⟨of_decide_eq_true bounds.1, of_decide_eq_true bounds.2⟩
  have kinds :
      (symbol.isUpper = true ∨ symbol.isLower = true) ∨ symbol.isDigit = true :=
    ((Bool.or_eq_true _ _).mp alphanumeric).imp_left (Bool.or_eq_true _ _).mp
  have range : 0x30 ≤ symbol.toNat ∧ symbol.toNat ≤ 0x7A := by
    have bounds := kinds.imp (Or.imp upper lower) digit
    simp only [UInt32.le_iff_toNat_le] at bounds
    have code : symbol.val.toNat = symbol.toNat := rfl
    rw [code] at bounds
    obtain (⟨low, high⟩ | ⟨low, high⟩) | ⟨low, high⟩ := bounds
    all_goals
      simp only [Char.reduceVal, UInt32.reduceToNat] at low high
      omega
  exact not_whiteSpace_of_visible (by omega) (by omega)

/-! ## Cutting once -/

theorem stripPrefix_eq_some
    {pattern text rest : List Char} (strip : stripPrefix pattern text = some rest) :
    text = pattern ++ rest := by
  rw [stripPrefix] at strip
  by_cases begins : pattern.isPrefixOf text = true
  · obtain ⟨back, rfl⟩ := List.isPrefixOf_iff_prefix.1 begins
    rw [if_pos begins, List.drop_left, Option.some.injEq] at strip
    rw [strip]
  · rw [if_neg begins] at strip
    exact absurd strip (by simp)

theorem splitOnce_eq_some
    {separator : Char} {text before after : List Char}
    (cut : splitOnce [separator] text = some (before, after)) :
    text = before ++ separator :: after ∧ separator ∉ before := by
  induction text generalizing before with
  | nil => exact absurd cut (by simp [splitOnce])
  | cons symbol rest inductionHypothesis =>
      rw [splitOnce] at cut
      by_cases here : symbol = separator
      · have found : stripPrefix [separator] (symbol :: rest) = some rest := by
          simp [stripPrefix, here]
        simp only [found, Option.some.injEq, Prod.mk.injEq] at cut
        obtain ⟨rfl, rfl⟩ := cut
        exact ⟨by rw [here]; rfl, by simp⟩
      · have missing : stripPrefix [separator] (symbol :: rest) = none := by
          simp [stripPrefix, Ne.symm here]
        simp only [missing, Option.map_eq_some_iff, Prod.mk.injEq, Prod.exists] at cut
        obtain ⟨front, back, cutRest, rfl, rfl⟩ := cut
        obtain ⟨whole, absent⟩ := inductionHypothesis cutRest
        refine ⟨by rw [whole]; rfl, ?_⟩
        rw [List.mem_cons, not_or]
        exact ⟨Ne.symm here, absent⟩

theorem splitOnce_none
    {separator : Char} {text : List Char} (absent : separator ∉ text) :
    splitOnce [separator] text = none := by
  cases cut : splitOnce [separator] text with
  | none => rfl
  | some result =>
      obtain ⟨whole, -⟩ := splitOnce_eq_some cut
      exact absurd (by rw [whole]; simp) absent

/-- Where two texts agree, they agree up to the first separator. -/
theorem before_separator
    {separator : Char} {front front' back back' : List Char}
    (same : front ++ separator :: back = front' ++ separator :: back')
    (absent : separator ∉ front) (absent' : separator ∉ front') :
    front = front' ∧ back = back' := by
  have cut := splitOnce_append absent back
  rw [same, splitOnce_append absent' back', Option.some.injEq, Prod.mk.injEq] at cut
  exact ⟨cut.1.symm, cut.2.symm⟩

/-! ## Parts up to a mark -/

/-- The parts up to the first that holds the mark, which is cut there. -/
def cutAtMark (mark : Char) : List (List Char) → List (List Char)
  | [] => []
  | part :: rest =>
      if mark ∈ part then [part.takeWhile (· != mark)] else part :: cutAtMark mark rest

theorem splitOn_takeWhile
    {mark separator : Char} (different : separator ≠ mark) (text : List Char) :
    (text.takeWhile (· != mark)).splitOn separator =
      cutAtMark mark (text.splitOn separator) := by
  induction text with
  | nil => simp [cutAtMark]
  | cons symbol rest inductionHypothesis =>
      have parts := List.splitOn_ne_nil separator rest
      by_cases ends : symbol = mark
      · rw [List.splitOn_cons_eq_if_modifyHead]
        cases split : rest.splitOn separator with
        | nil => exact absurd split parts
        | cons part others => simp [ends, Ne.symm different, cutAtMark]
      · by_cases separates : symbol = separator
        · rw [List.splitOn_cons_eq_if_modifyHead]
          have kept : (symbol :: rest).takeWhile (· != mark) =
              symbol :: rest.takeWhile (· != mark) := by simp [ends]
          rw [kept, List.splitOn_cons_eq_if_modifyHead]
          simp [separates, cutAtMark, inductionHypothesis]
        · have kept : (symbol :: rest).takeWhile (· != mark) =
              symbol :: rest.takeWhile (· != mark) := by simp [ends]
          have noSeparator : (symbol == separator) = false := by simpa using separates
          rw [kept, List.splitOn_cons_eq_if_modifyHead,
            List.splitOn_cons_eq_if_modifyHead, noSeparator, inductionHypothesis]
          cases split : rest.splitOn separator with
          | nil => exact absurd split parts
          | cons part others =>
              by_cases inPart : mark ∈ part
              · simp [cutAtMark, inPart, ends]
              · simp [cutAtMark, inPart, Ne.symm ends]

/-- No part of a split text holds the separator. -/
theorem not_mem_of_mem_splitOn
    {separator : Char} {text part : List Char} (member : part ∈ text.splitOn separator) :
    separator ∉ part := by
  induction text generalizing part with
  | nil =>
      rw [List.splitOn_nil, List.mem_singleton] at member
      simp [member]
  | cons symbol rest inductionHypothesis =>
      rw [List.splitOn_cons_eq_if_modifyHead] at member
      by_cases separates : symbol = separator
      · simp only [separates, beq_self_eq_true, if_true, List.mem_cons] at member
        rcases member with rfl | member
        · simp
        · exact inductionHypothesis member
      · have noSeparator : (symbol == separator) = false := by simpa using separates
        rw [noSeparator] at member
        cases split : rest.splitOn separator with
        | nil => exact absurd split (List.splitOn_ne_nil separator rest)
        | cons first others =>
            rw [split] at member inductionHypothesis
            simp only [Bool.false_eq_true, if_false, List.modifyHead_cons,
              List.mem_cons] at member
            rcases member with rfl | member
            · rw [List.mem_cons, not_or]
              exact ⟨Ne.symm separates, inductionHypothesis List.mem_cons_self⟩
            · exact inductionHypothesis (List.mem_cons_of_mem _ member)

/-! ## Texts joined by a separator -/

/-- The parts of some texts between their separators, text by text. -/
def partsOf (separator : Char) (texts : List (List Char)) : List (List (List Char)) :=
  texts.map (List.splitOn separator)

/-- The same parts in the same order, but distributed over the texts in another way. -/
def Regrouped (separator : Char) (left right : List (List Char)) : Prop :=
  (partsOf separator left).flatten = (partsOf separator right).flatten ∧
    partsOf separator left ≠ partsOf separator right

instance (separator : Char) (left right : List (List Char)) :
    Decidable (Regrouped separator left right) :=
  inferInstanceAs (Decidable (_ ∧ _))

theorem partsOf_injective (separator : Char) : Function.Injective (partsOf separator) :=
  List.map_injective_iff.mpr
    (Function.LeftInverse.injective fun _ => List.intercalate_splitOn separator)

/-- A joined text splits into the parts of its texts. -/
theorem splitOn_intercalate_eq
    (separator : Char) {texts : List (List Char)} (nonempty : texts ≠ []) :
    ([separator].intercalate texts).splitOn separator = (partsOf separator texts).flatten := by
  induction texts with
  | nil => exact absurd rfl nonempty
  | cons text rest inductionHypothesis =>
      cases rest with
      | nil => simp [partsOf]
      | cons next others =>
          have later := inductionHypothesis (List.cons_ne_nil next others)
          rw [List.intercalate_cons_cons, List.append_assoc, List.singleton_append,
            List.splitOn_append_cons_self, later]
          rfl

/-- Joined texts are the same if and only if they have the same parts in all. -/
theorem intercalate_eq_iff
    (separator : Char) {left right : List (List Char)} (leftNonempty : left ≠ [])
    (rightNonempty : right ≠ []) :
    [separator].intercalate left = [separator].intercalate right ↔
      (partsOf separator left).flatten = (partsOf separator right).flatten := by
  rw [← splitOn_intercalate_eq separator leftNonempty,
    ← splitOn_intercalate_eq separator rightNonempty]
  constructor
  · exact congrArg (List.splitOn separator)
  · intro same
    have joinedAgain := congrArg [separator].intercalate same
    rwa [List.intercalate_splitOn, List.intercalate_splitOn] at joinedAgain

theorem length_le_parts (separator : Char) (texts : List (List Char)) :
    texts.length ≤ (partsOf separator texts).flatten.length := by
  induction texts with
  | nil => exact Nat.le_refl 0
  | cons text rest inductionHypothesis =>
      have positive := List.length_pos_of_ne_nil (List.splitOn_ne_nil separator text)
      rw [partsOf, List.map_cons, List.flatten_cons, List.length_append, List.length_cons]
      rw [partsOf] at inductionHypothesis
      omega

/-- Where there are as many parts as texts, each text is one part. -/
theorem partsOf_of_length
    {separator : Char} {texts : List (List Char)}
    (whole : (partsOf separator texts).flatten.length = texts.length) :
    partsOf separator texts = (partsOf separator texts).flatten.map fun part => [part] := by
  induction texts with
  | nil => rfl
  | cons text rest inductionHypothesis =>
      have more := length_le_parts separator rest
      have split :
          partsOf separator (text :: rest) = text.splitOn separator :: partsOf separator rest := rfl
      rw [split, List.flatten_cons, List.length_append, List.length_cons] at whole
      rw [split, List.flatten_cons]
      cases parts : text.splitOn separator with
      | nil => exact absurd parts (List.splitOn_ne_nil separator text)
      | cons part others =>
          rw [parts, List.length_cons] at whole
          have noOthers : others = [] := List.length_eq_zero_iff.mp (by omega)
          have restWhole : (partsOf separator rest).flatten.length = rest.length := by omega
          rw [noOthers, List.singleton_append, List.map_cons, ← inductionHypothesis restWhole]

/-- Texts without the separator are never regrouped. -/
theorem not_regrouped_of_absent
    {separator : Char} {left right : List (List Char)}
    (absent : ∀ text ∈ left, separator ∉ text) (sameCount : left.length = right.length) :
    ¬Regrouped separator left right := by
  rintro ⟨same, differ⟩
  have single : partsOf separator left = left.map fun text => [text] :=
    List.map_congr_left fun text member => List.splitOn_eq_singleton (absent text member)
  have count : (partsOf separator left).flatten.length = left.length := by
    rw [single, ← List.flatMap_def, List.flatMap_singleton']
  have otherCount : (partsOf separator right).flatten.length = right.length := by
    rw [← same, count, sameCount]
  apply differ
  rw [partsOf_of_length count, partsOf_of_length otherCount, same]

/-- A text of one-byte characters has as many bytes as characters. -/
theorem utf8ByteSize_ofList
    {symbols : List Char} (narrow : ∀ symbol ∈ symbols, symbol.utf8Size = 1) :
    (String.ofList symbols).utf8ByteSize = symbols.length := by
  induction symbols with
  | nil => simp
  | cons symbol rest inductionHypothesis =>
      have restNarrow := inductionHypothesis fun other member =>
        narrow other (List.mem_cons_of_mem symbol member)
      rw [String.ofList_cons, String.utf8ByteSize_append, String.utf8ByteSize_singleton,
        narrow symbol List.mem_cons_self, restNarrow, List.length_cons]
      omega

theorem length_le_utf8ByteSize (text : String) : text.toList.length ≤ text.utf8ByteSize := by
  have bound :
      ∀ symbols : List Char, symbols.length ≤ (String.ofList symbols).utf8ByteSize := by
    intro symbols
    induction symbols with
    | nil => exact Nat.zero_le _
    | cons symbol rest inductionHypothesis =>
        have positive := symbol.utf8Size_pos
        rw [String.ofList_cons, String.utf8ByteSize_append, String.utf8ByteSize_singleton,
          List.length_cons]
        omega
  have size := bound text.toList
  rwa [String.ofList_toList] at size

/-! ## Numbers -/

theorem toDigits_injective : Function.Injective (Nat.toDigits 10) := by
  intro left right same
  rw [← Nat.ofDigitChars_toDigits (b := 10) (n := left) (by decide) (by decide), same,
    Nat.ofDigitChars_toDigits (by decide) (by decide)]

/-- A number in decimal has a byte for each digit. -/
theorem utf8ByteSize_repr_le {number digits : Nat} (positive : 0 < digits)
    (small : number < 10 ^ digits) : number.repr.utf8ByteSize ≤ digits := by
  have narrow : ∀ symbol ∈ Nat.toDigits 10 number, symbol.utf8Size = 1 := by
    intro symbol member
    have isDigit := Nat.isDigit_of_mem_toDigits (by decide) (by decide) member
    have bounds := (Bool.and_eq_true _ _).mp isDigit
    have high : symbol.val ≤ '9'.val := of_decide_eq_true bounds.2
    exact Char.utf8Size_eq_one_iff.mpr (UInt32.le_trans high (by decide))
  rw [Nat.repr_eq_ofList_toDigits, utf8ByteSize_ofList narrow]
  exact (Nat.length_toDigits_le_iff (by decide) positive).mpr small

/-! ## Patterns -/

/-- A pattern that stands in a text is found. -/
theorem contains_of_infix {pattern text : List Char} (stands : pattern <:+: text) :
    contains pattern text = true := by
  induction text with
  | nil =>
      rw [List.infix_nil.mp stands]
      rfl
  | cons symbol rest inductionHypothesis =>
      rw [contains, splitOnce]
      cases found : stripPrefix pattern (symbol :: rest) with
      | some after => rfl
      | none =>
          have later : pattern <:+: rest := by
            rcases List.infix_cons_iff.mp stands with atStart | inRest
            · obtain ⟨after, isText⟩ := atStart
              rw [← isText, stripPrefix_append] at found
              cases found
            · exact inRest
          have inRest := inductionHypothesis later
          rw [contains] at inRest
          simpa using inRest

end Text
