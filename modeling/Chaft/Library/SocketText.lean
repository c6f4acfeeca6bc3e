import Chaft.Library.TextParts

/-!
# Written network addresses

The text in which a socket address is displayed, and what reading it back
gives: every address a text can denote is written as a text that denotes it
again.  The readers consume only the symbols of addresses, so no other symbol
can hide in a text they accept.
-/

namespace Text

/-! ## Writing -/

/-- Items in order, with the separator before every item but the first. -/
def writeSeparated (separator : Char) (radix : Nat) : (index : Nat) → List Nat → List Char
  | _, [] => []
  | index, item :: rest =>
      (if index = 0 then [] else [separator]) ++ Nat.toDigits radix item ++
        writeSeparated separator radix (index + 1) rest

def writeIpv4Addr (octets : List Nat) : List Char :=
  writeSeparated '.' 10 0 octets

structure Span where
  start : Nat
  length : Nat
  deriving DecidableEq, Repr

/-- The longest run of zeros, the first of them when several are longest. -/
def longestZeroes : (index : Nat) → (longest current : Span) → List Nat → Span
  | _, longest, _, [] => longest
  | index, longest, current, segment :: rest =>
      if segment = 0 then
        let start := if current.length = 0 then index else current.start
        let current : Span := ⟨start, current.length + 1⟩
        let longest := if longest.length < current.length then current else longest
        longestZeroes (index + 1) longest current rest
      else
        longestZeroes (index + 1) longest ⟨0, 0⟩ rest

/-- The dotted address that an address of eight groups maps. -/
def toIpv4Mapped : List Nat → Option (List Nat)
  | [first, second, third, fourth, fifth, marker, high, low] =>
      if first = 0 ∧ second = 0 ∧ third = 0 ∧ fourth = 0 ∧ fifth = 0 ∧ marker = 65535 then
        some [high / 256, high % 256, low / 256, low % 256]
      else
        none
  | _ => none

/-- An address that maps a dotted one shows it; in any other the longest run
of at least two zeros is left out. -/
def writeIpv6Addr (groups : List Nat) : List Char :=
  match toIpv4Mapped groups with
  | some octets => "::ffff:".toList ++ writeIpv4Addr octets
  | none =>
      let zeroes := longestZeroes 0 ⟨0, 0⟩ ⟨0, 0⟩ groups
      if 1 < zeroes.length then
        writeSeparated ':' 16 0 (groups.take zeroes.start) ++ "::".toList ++
          writeSeparated ':' 16 0 (groups.drop (zeroes.start + zeroes.length))
      else
        writeSeparated ':' 16 0 groups

def writePort (port : Nat) : List Char :=
  ':' :: Nat.toDigits 10 port

def writeScopeId (scopeId : Nat) : List Char :=
  if scopeId = 0 then [] else '%' :: Nat.toDigits 10 scopeId

def writeSocketAddr : SocketAddr → List Char
  | .v4 octets port => writeIpv4Addr octets ++ writePort port
  | .v6 groups scopeId port =>
      '[' :: (writeIpv6Addr groups ++ (writeScopeId scopeId ++ (']' :: writePort port)))

/-- The addresses of the protocols: four octets, or eight groups. -/
def SocketAddr.WellFormed : SocketAddr → Prop
  | .v4 octets port =>
      octets.length = 4 ∧ (∀ octet ∈ octets, octet ≤ 255) ∧ port ≤ 65535
  | .v6 groups scopeId port =>
      groups.length = 8 ∧ (∀ group ∈ groups, group ≤ 65535) ∧
        scopeId ≤ 4294967295 ∧ port ≤ 65535

/-! ## Digits -/

/-- Whether a digit of the radix could continue a run that stops before the
text. -/
def DigitFree (radix : Nat) (text : List Char) : Prop :=
  ∀ symbol ∈ text.head?, toDigit radix symbol = none

theorem toDigit_digitChar {radix digit : Nat} (radixBound : radix ≤ 16) (small : digit < radix) :
    toDigit radix digit.digitChar = some digit := by
  have plain : ∀ digit < 16, toDigit 16 (Nat.digitChar digit) = some digit := by
    decide
  have known := plain digit (by omega)
  rw [toDigit] at known ⊢
  have found := (Option.filter_eq_some_iff.1 known).1
  rw [found]
  simpa [Option.filter] using small

private theorem toDigits_step {radix number : Nat} (large : 1 < radix) :
    Nat.toDigits radix number =
      if number < radix then [number.digitChar]
      else Nat.toDigits radix (number / radix) ++ [(number % radix).digitChar] := by
  by_cases small : number < radix
  · rw [if_pos small, Nat.toDigits_of_lt_base small]
  · rw [if_neg small, Nat.toDigits_of_base_le large (by omega)]

theorem toDigit_of_mem_toDigits
    {radix : Nat} (large : 1 < radix) (radixBound : radix ≤ 16) (number : Nat) :
    ∀ symbol ∈ Nat.toDigits radix number, ∃ digit, toDigit radix symbol = some digit := by
  induction number using Nat.strong_induction_on with
  | h number inductionHypothesis =>
      intro symbol member
      rw [toDigits_step large] at member
      by_cases small : number < radix
      · rw [if_pos small, List.mem_singleton] at member
        exact ⟨number, member ▸ toDigit_digitChar radixBound small⟩
      · rw [if_neg small, List.mem_append, List.mem_singleton] at member
        rcases member with higher | last
        · exact inductionHypothesis _ (Nat.div_lt_self (by omega) large) symbol higher
        · exact ⟨number % radix,
            last ▸ toDigit_digitChar radixBound (Nat.mod_lt _ (by omega))⟩

theorem digitsValue_toDigits
    {radix : Nat} (large : 1 < radix) (radixBound : radix ≤ 16) (number : Nat) :
    digitsValue radix ((Nat.toDigits radix number).filterMap (toDigit radix)) = number := by
  induction number using Nat.strong_induction_on with
  | h number inductionHypothesis =>
      rw [toDigits_step large]
      by_cases small : number < radix
      · have digit := toDigit_digitChar radixBound small
        simp [if_pos small, digit, digitsValue]
      · have higher := inductionHypothesis _ (Nat.div_lt_self (by omega) large)
        have digit := toDigit_digitChar radixBound (Nat.mod_lt number (by omega : 0 < radix))
        rw [if_neg small, List.filterMap_append, digitsValue, List.foldl_append,
          ← digitsValue, higher]
        simp only [List.filterMap_cons, digit, List.filterMap_nil, List.foldl_cons,
          List.foldl_nil]
        rw [Nat.mul_comm]
        exact Nat.div_add_mod number radix

theorem head_toDigits
    {radix : Nat} (large : 1 < radix) (radixBound : radix ≤ 16) {number : Nat}
    (positive : 0 < number) :
    (Nat.toDigits radix number).head? ≠ some '0' := by
  induction number using Nat.strong_induction_on with
  | h number inductionHypothesis =>
      rw [toDigits_step large]
      by_cases small : number < radix
      · have plain : ∀ digit < 16, 0 < digit → Nat.digitChar digit ≠ '0' := by
          decide
        have known := plain number (by omega) positive
        simpa [if_pos small] using known
      · have higher := inductionHypothesis _ (Nat.div_lt_self positive large)
          (Nat.div_pos (by omega) (by omega))
        rw [if_neg small]
        rw [List.head?_append_of_ne_nil _ Nat.toDigits_ne_nil]
        exact higher

/-- A written number is read back, whatever follows it. -/
theorem readNumber_toDigits
    {radix : Nat} (large : 1 < radix) (radixBound : radix ≤ 16)
    (maxDigits : Option Nat) (allowZeroPrefix : Bool) {bound number : Nat}
    (inBound : number ≤ bound)
    (short : ∀ limit ∈ maxDigits, (Nat.toDigits radix number).length ≤ limit)
    {rest : List Char} (stops : DigitFree radix rest) :
    readNumber radix maxDigits allowZeroPrefix bound (Nat.toDigits radix number ++ rest) =
      some (number, rest) := by
  have digits := toDigit_of_mem_toDigits large radixBound number
  have run :
      (Nat.toDigits radix number ++ rest).takeWhile
          (fun symbol => (toDigit radix symbol).isSome) =
        Nat.toDigits radix number := by
    rw [List.takeWhile_append_of_pos]
    · have none : rest.takeWhile (fun symbol => (toDigit radix symbol).isSome) = [] := by
        cases rest with
        | nil => rfl
        | cons symbol rest =>
            have stop := stops symbol rfl
            simp [stop]
      rw [none, List.append_nil]
    · intro symbol member
      obtain ⟨digit, isDigit⟩ := digits symbol member
      simp [isDigit]
  have value := digitsValue_toDigits large radixBound number
  have noLeadingZero :
      ¬ ((Nat.toDigits radix number).head? = some '0' ∧
        1 < (Nat.toDigits radix number).length) := by
    intro leading
    by_cases zero : number = 0
    · rw [zero, Nat.toDigits_zero] at leading
      exact absurd leading.2 (by decide)
    · exact head_toDigits large radixBound (by omega) leading.1
  have notLong : maxDigits.any (· < (Nat.toDigits radix number).length) = false := by
    cases maxDigits with
    | none => rfl
    | some limit =>
        have enough := short limit rfl
        simpa using enough
  have nonempty : (Nat.toDigits radix number).isEmpty = false := by
    simp [Nat.toDigits_ne_nil]
  rw [readNumber]
  simp only [run, value, notLong, nonempty]
  rw [if_neg]
  · rw [List.drop_left]
  · rintro (empty | long | ⟨-, first, several⟩ | tooLarge)
    · exact absurd empty (by decide)
    · exact absurd long (by decide)
    · exact noLeadingZero ⟨first, several⟩
    · omega

/-! ## Reading back -/

private theorem digitFree_cons {radix : Nat} {symbol : Char} {rest : List Char}
    (noDigit : toDigit radix symbol = none) : DigitFree radix (symbol :: rest) := by
  intro first isFirst
  cases isFirst
  exact noDigit

/-- A separated list continues with its separator, or with what follows it. -/
private theorem digitFree_writeSeparated
    {separator : Char} {radix valueRadix index : Nat} (later : index ≠ 0)
    (noDigit : toDigit radix separator = none)
    (items : List Nat) {rest : List Char} (stops : DigitFree radix rest) :
    DigitFree radix (writeSeparated separator valueRadix index items ++ rest) := by
  cases items with
  | nil => exact stops
  | cons item items =>
      rw [writeSeparated, if_neg later]
      exact digitFree_cons noDigit

private theorem readSeparator_write
    {α : Type} (separator : Char) (index : Nat) (inner : Reader α) (text : List Char) :
    readSeparator separator index inner
        ((if index = 0 then [] else [separator]) ++ text) = inner text := by
  by_cases start : index = 0
  · simp [readSeparator, start]
  · simp [readSeparator, start, readGivenChar]

theorem readIpv4Octets_write
    {octets : List Nat} (bytes : ∀ octet ∈ octets, octet ≤ 255)
    (index : Nat) {rest : List Char} (stops : DigitFree 10 rest) :
    readIpv4Octets octets.length index (writeSeparated '.' 10 index octets ++ rest) =
      some (octets, rest) := by
  induction octets generalizing index with
  | nil => rfl
  | cons octet octets inductionHypothesis =>
      have first : octet ≤ 255 := bytes octet List.mem_cons_self
      have others := inductionHypothesis
        (fun other member => bytes other (List.mem_cons_of_mem _ member)) (index + 1)
      have short : (Nat.toDigits 10 octet).length ≤ 3 := by
        rw [Nat.length_toDigits_le_iff (by decide) (by decide)]
        omega
      have continued : DigitFree 10 (writeSeparated '.' 10 (index + 1) octets ++ rest) :=
        digitFree_writeSeparated (Nat.succ_ne_zero index) (by decide) octets stops
      have number := readNumber_toDigits (by decide) (by decide) (some 3) false
        first (by simpa using short) continued
      rw [List.length_cons, readIpv4Octets, writeSeparated, List.append_assoc,
        List.append_assoc]
      simp only [readSeparator_write, number, Option.bind_some, others, Option.map_some]

theorem readIpv4Addr_write
    {octets : List Nat} (four : octets.length = 4) (bytes : ∀ octet ∈ octets, octet ≤ 255)
    {rest : List Char} (stops : DigitFree 10 rest) :
    readIpv4Addr (writeIpv4Addr octets ++ rest) = some (octets, rest) := by
  rw [readIpv4Addr, writeIpv4Addr, ← four]
  exact readIpv4Octets_write bytes 0 stops

private theorem readNumber_rest
    {radix : Nat} {maxDigits : Option Nat} {allowZeroPrefix : Bool} {bound number : Nat}
    {input rest : List Char}
    (read : readNumber radix maxDigits allowZeroPrefix bound input = some (number, rest)) :
    number ≤ bound ∧
      input = input.takeWhile (fun symbol => (toDigit radix symbol).isSome) ++ rest ∧
      rest = input.dropWhile (fun symbol => (toDigit radix symbol).isSome) := by
  simp only [readNumber] at read
  split at read
  · exact absurd read (by simp)
  · next accepted =>
      simp only [not_or, Nat.not_lt, Option.some.injEq, Prod.mk.injEq] at accepted read
      have split := List.takeWhile_append_dropWhile
        (p := fun symbol => (toDigit radix symbol).isSome) (l := input)
      have dropped := @List.drop_left _
        (input.takeWhile (fun symbol => (toDigit radix symbol).isSome))
        (input.dropWhile (fun symbol => (toDigit radix symbol).isSome))
      rw [split, read.2] at dropped
      refine ⟨read.1 ▸ accepted.2.2.2, ?_, dropped⟩
      rw [dropped, split]

/-- What may follow a written run of groups: nothing that a further group, or
a dotted address in its place, could be read from. -/
structure EndsGroups (rest : List Char) : Prop where
  digitFree : DigitFree 16 rest
  noDot : rest.head? ≠ some '.'
  noGroup : ∀ index maxDigits allowZeroPrefix bound,
    readSeparator ':' index (readNumber 16 maxDigits allowZeroPrefix bound) rest = none
  noDotted : ∀ index, readSeparator ':' index readIpv4Addr rest = none

private theorem readNumber_none
    {radix : Nat} {rest : List Char} (stops : DigitFree radix rest)
    (maxDigits : Option Nat) (allowZeroPrefix : Bool) (bound : Nat) :
    readNumber radix maxDigits allowZeroPrefix bound rest = none := by
  have run : rest.takeWhile (fun symbol => (toDigit radix symbol).isSome) = [] := by
    cases rest with
    | nil => rfl
    | cons symbol rest => simp [stops symbol rfl]
  simp [readNumber, run]

private theorem DigitFree.ten {rest : List Char} (stops : DigitFree 16 rest) :
    DigitFree 10 rest := by
  intro symbol first
  have noDigit := stops symbol first
  simp only [toDigit, Option.filter_eq_none_iff, decide_eq_true_eq] at noDigit ⊢
  intro value found
  have large := noDigit value found
  omega

private theorem readIpv4Addr_none
    {rest : List Char} (stops : DigitFree 10 rest) : readIpv4Addr rest = none := by
  simp [readIpv4Addr, readIpv4Octets, readSeparator, readNumber_none stops]

/-- A colon ends the groups when no group follows it at once. -/
theorem endsGroups_colon {rest : List Char} (stops : DigitFree 16 rest) :
    EndsGroups (':' :: rest) where
  digitFree := digitFree_cons (by decide)
  noDot := by simp
  noGroup index maxDigits allowZeroPrefix bound := by
    have here : DigitFree 16 (':' :: rest) := digitFree_cons (by decide)
    simp [readSeparator, readGivenChar, readNumber_none here, readNumber_none stops]
  noDotted index := by
    have here : DigitFree 10 (':' :: rest) := digitFree_cons (by decide)
    simp [readSeparator, readGivenChar, readIpv4Addr_none here, readIpv4Addr_none stops.ten]

theorem endsGroups_symbol
    {symbol : Char} (noDigit : toDigit 16 symbol = none) (noColon : symbol ≠ ':')
    (noDot : symbol ≠ '.') (rest : List Char) :
    EndsGroups (symbol :: rest) where
  digitFree := digitFree_cons noDigit
  noDot := by simpa using noDot
  noGroup index maxDigits allowZeroPrefix bound := by
    have here : DigitFree 16 (symbol :: rest) := digitFree_cons noDigit
    simp [readSeparator, readGivenChar, readNumber_none here, noColon]
  noDotted index := by
    have here : DigitFree 16 (symbol :: rest) := digitFree_cons noDigit
    simp [readSeparator, readGivenChar, readIpv4Addr_none here.ten, noColon]

/-- A group followed by no dot is not the start of a dotted address. -/
private theorem readIpv4Addr_group
    (group : Nat) {rest : List Char} (stops : DigitFree 16 rest)
    (noDot : rest.head? ≠ some '.') :
    readIpv4Addr (Nat.toDigits 16 group ++ rest) = none := by
  rw [readIpv4Addr, readIpv4Octets]
  simp only [readSeparator, if_true]
  cases read : readNumber 10 (some 3) false 255 (Nat.toDigits 16 group ++ rest) with
  | none => rfl
  | some result =>
      obtain ⟨octet, unread⟩ := result
      obtain ⟨-, -, dropped⟩ := readNumber_rest read
      have head : unread.head? ≠ some '.' := by
        rw [dropped, List.dropWhile_append]
        split
        · have kept : rest.dropWhile (fun symbol => (toDigit 10 symbol).isSome) = rest := by
            cases rest with
            | nil => rfl
            | cons symbol rest => simp [stops.ten symbol rfl]
          rw [kept]
          exact noDot
        · next nonempty =>
            have partial_ne : (Nat.toDigits 16 group).dropWhile
                (fun symbol => (toDigit 10 symbol).isSome) ≠ [] := by
              simpa using nonempty
            rw [List.head?_append_of_ne_nil _ partial_ne]
            intro isDot
            have member : '.' ∈ Nat.toDigits 16 group :=
              (List.dropWhile_sublist _).subset (List.mem_of_mem_head? isDot)
            obtain ⟨digit, isDigit⟩ :=
              toDigit_of_mem_toDigits (by decide) (by decide) group '.' member
            rw [show toDigit 16 '.' = none by decide] at isDigit
            exact absurd isDigit (by simp)
      have noPoint : readGivenChar '.' unread = none := by
        cases unread with
        | nil => rfl
        | cons symbol unread =>
            have different : symbol ≠ '.' := by simpa using head
            simp [readGivenChar, different]
      simp [readIpv4Octets, readSeparator, noPoint]

private theorem noDot_writeSeparated
    {index : Nat} (later : index ≠ 0) (groups : List Nat)
    {rest : List Char} (noDot : rest.head? ≠ some '.') :
    (writeSeparated ':' 16 index groups ++ rest).head? ≠ some '.' := by
  cases groups with
  | nil => exact noDot
  | cons group groups =>
      rw [writeSeparated, if_neg later]
      simp

/-- One written group is read as one group. -/
private theorem readIpv6Groups_group
    {limit missing group : Nat} (bounded : group ≤ 65535) {rest : List Char}
    (digitFree : DigitFree 16 rest) (noDot : rest.head? ≠ some '.') :
    readIpv6Groups limit (missing + 1)
        ((if limit - (missing + 1) = 0 then [] else [':']) ++
          (Nat.toDigits 16 group ++ rest)) =
      ((group :: (readIpv6Groups limit missing rest).1.1,
        (readIpv6Groups limit missing rest).1.2), (readIpv6Groups limit missing rest).2) := by
  have short : (Nat.toDigits 16 group).length ≤ 4 := by
    rw [Nat.length_toDigits_le_iff (by decide) (by decide)]
    omega
  have number := readNumber_toDigits (by decide) (by decide) (some 4) true
    bounded (by simpa using short) digitFree
  have notDotted := readIpv4Addr_group group digitFree noDot
  rw [readIpv6Groups]
  simp only [readSeparator_write, notDotted, ite_self, number]

theorem readIpv6Groups_write
    {limit : Nat} {groups : List Nat} (bounded : ∀ group ∈ groups, group ≤ 65535)
    {rest : List Char} (ends : EndsGroups rest) {missing : Nat} (inLimit : missing ≤ limit)
    (room : groups.length ≤ missing) :
    readIpv6Groups limit missing
        (writeSeparated ':' 16 (limit - missing) groups ++ rest) =
      ((groups, false), rest) := by
  induction groups generalizing missing with
  | nil =>
      cases missing with
      | zero => rfl
      | succ missing =>
          rw [writeSeparated, List.nil_append, readIpv6Groups]
          simp only [ends.noDotted, ends.noGroup, ite_self]
  | cons group groups inductionHypothesis =>
      cases missing with
      | zero => exact absurd room (by simp)
      | succ missing =>
          have first : group ≤ 65535 := bounded group List.mem_cons_self
          have nextIndex : limit - (missing + 1) + 1 = limit - missing := by omega
          have others := inductionHypothesis
            (fun other member => bounded other (List.mem_cons_of_mem _ member))
            (by omega : missing ≤ limit) (by simpa using room)
          rw [← nextIndex] at others
          have continued :
              DigitFree 16
                (writeSeparated ':' 16 (limit - (missing + 1) + 1) groups ++ rest) :=
            digitFree_writeSeparated (Nat.succ_ne_zero _) (by decide) groups ends.digitFree
          have noDot := noDot_writeSeparated
            (Nat.succ_ne_zero (limit - (missing + 1))) groups ends.noDot
          rw [writeSeparated, List.append_assoc, List.append_assoc,
            readIpv6Groups_group first continued noDot, others]

/-- A span of a list that holds zeros only. -/
def Span.Zero (span : Span) (segments : List Nat) : Prop :=
  ∃ front back, front.length = span.start ∧
    segments = front ++ (List.replicate span.length 0 ++ back)

private theorem Span.Zero.append
    {span : Span} {segments : List Nat} (zero : span.Zero segments) (more : List Nat) :
    span.Zero (segments ++ more) := by
  obtain ⟨front, back, start, whole⟩ := zero
  exact ⟨front, back ++ more, start, by rw [whole]; simp⟩

/-- The search for the longest run, after a front part of the list: the best
span so far lies in it, and the current one ends it. -/
theorem longestZeroes_zero
    {searched : List Nat} {longest current : Span} (found : longest.Zero searched)
    (ending : current.length ≠ 0 →
      ∃ front, front.length = current.start ∧
        searched = front ++ List.replicate current.length 0)
    (rest : List Nat) :
    (longestZeroes searched.length longest current rest).Zero (searched ++ rest) := by
  induction rest generalizing searched longest current with
  | nil => simpa [longestZeroes] using found
  | cons segment rest inductionHypothesis =>
      have next : searched ++ segment :: rest = (searched ++ [segment]) ++ rest := by simp
      have index : searched.length + 1 = (searched ++ [segment]).length := by simp
      rw [longestZeroes, next, index]
      by_cases zero : segment = 0
      · have extended :
            ∃ front, front.length =
                (if current.length = 0 then searched.length else current.start) ∧
              searched ++ [segment] = front ++ List.replicate (current.length + 1) 0 := by
          by_cases fresh : current.length = 0
          · exact ⟨searched, by simp [fresh], by simp [fresh, zero]⟩
          · obtain ⟨front, start, whole⟩ := ending fresh
            refine ⟨front, by simpa [fresh] using start, ?_⟩
            rw [List.replicate_succ', ← List.append_assoc, ← whole, zero]
        simp only [zero, if_true] at extended ⊢
        apply inductionHypothesis
        · split
          · obtain ⟨front, start, whole⟩ := extended
            exact ⟨front, [], start, by simpa using whole⟩
          · exact found.append _
        · exact fun _ => extended
      · simp only [zero, if_false]
        exact inductionHypothesis (found.append _) (fun nonzero => absurd rfl nonzero)

theorem longestZeroes_whole (groups : List Nat) :
    (longestZeroes 0 ⟨0, 0⟩ ⟨0, 0⟩ groups).Zero groups := by
  have nothing : (⟨0, 0⟩ : Span).Zero [] := ⟨[], [], rfl, rfl⟩
  have fresh : (⟨0, 0⟩ : Span).length ≠ 0 →
      ∃ front : List Nat, front.length = 0 ∧ [] = front ++ List.replicate 0 0 :=
    fun nonzero => absurd rfl nonzero
  exact longestZeroes_zero nothing fresh groups

/-- The two ends that an address shows, and the zeros between them. -/
theorem Span.Zero.split {span : Span} {groups : List Nat} (zero : span.Zero groups) :
    groups.take span.start ++ (List.replicate span.length 0 ++
        groups.drop (span.start + span.length)) = groups ∧
      (groups.take span.start).length + span.length +
        (groups.drop (span.start + span.length)).length = groups.length := by
  obtain ⟨front, back, start, rfl⟩ := zero
  rw [← List.drop_drop, List.take_left' start, List.drop_left' start,
    List.drop_left' List.length_replicate]
  simp only [List.length_append, List.length_replicate, true_and]
  omega

/-- A dotted address fills two places and ends the run. -/
private theorem readIpv6Groups_dotted
    {limit missing : Nat} (room : missing ≠ 0) {first second third fourth : Nat}
    {input rest : List Char}
    (read : readSeparator ':' (limit - (missing + 1)) readIpv4Addr input =
      some ([first, second, third, fourth], rest)) :
    readIpv6Groups limit (missing + 1) input =
      (([first * 256 + second, third * 256 + fourth], true), rest) := by
  rw [readIpv6Groups]
  simp only [if_neg room, read]

/-- Two colons stand for the groups that the two runs leave out. -/
private theorem readIpv6Addr_compressed
    {front back : List Nat} {dotted : Bool} {input middle rest : List Char}
    (readFront : readIpv6Groups 8 8 input = ((front, false), ':' :: ':' :: middle))
    (short : front.length ≠ 8)
    (readBack : readIpv6Groups (8 - (front.length + 1)) (8 - (front.length + 1)) middle =
      ((back, dotted), rest)) :
    readIpv6Addr input =
      some (front ++ List.replicate (8 - front.length - back.length) 0 ++ back, rest) := by
  rw [readIpv6Addr]
  simp only [readFront, if_neg short, readGivenChar, if_true, Option.bind_some,
    Option.map_some, readBack, Bool.false_eq_true, if_false]

private theorem readIpv6Addr_mapped
    {high low : Nat} (highBound : high ≤ 65535) (lowBound : low ≤ 65535)
    {rest : List Char} (ends : EndsGroups rest) :
    readIpv6Addr ("::ffff:".toList ++
        (writeIpv4Addr [high / 256, high % 256, low / 256, low % 256] ++ rest)) =
      some ([0, 0, 0, 0, 0, 65535, high, low], rest) := by
  have bytes : ∀ octet ∈ [high / 256, high % 256, low / 256, low % 256], octet ≤ 255 := by
    intro octet member
    simp only [List.mem_cons, List.not_mem_nil, or_false] at member
    omega
  have dotted := readIpv4Addr_write (by rfl) bytes ends.digitFree.ten
  generalize writeIpv4Addr [high / 256, high % 256, low / 256, low % 256] = written at dotted
  have colons : "::ffff:".toList = [':', ':', 'f', 'f', 'f', 'f', ':'] := by decide
  have nothing : EndsGroups (':' :: ':' :: 'f' :: 'f' :: 'f' :: 'f' :: ':' ::
      (written ++ rest)) := endsGroups_colon (digitFree_cons (by decide))
  have front := @readIpv6Groups_write 8 [] (by simp) _ nothing 8 (Nat.le_refl 8) (by simp)
  have marker : Nat.toDigits 16 65535 = ['f', 'f', 'f', 'f'] := by decide
  have pair : readIpv6Groups 7 6 (':' :: (written ++ rest)) =
      (([high, low], true), rest) := by
    have read := readSeparator_write ':' 1 readIpv4Addr (written ++ rest)
    have sums : high / 256 * 256 + high % 256 = high ∧ low / 256 * 256 + low % 256 = low := by
      omega
    rw [dotted] at read
    simp only [if_neg Nat.one_ne_zero, List.singleton_append] at read
    have groups := @readIpv6Groups_dotted 7 5 (by decide) _ _ _ _ _ _ read
    rwa [sums.1, sums.2] at groups
  have back := @readIpv6Groups_group 7 6 65535 (Nat.le_refl _) (':' :: (written ++ rest))
    (digitFree_cons (by decide)) (by simp)
  simp only [Nat.reduceSub, Nat.reduceAdd, if_true, List.nil_append, marker, pair] at back
  simp only [List.nil_append, writeSeparated] at front
  simp only [List.cons_append, List.nil_append] at back
  have read := readIpv6Addr_compressed front (by decide) back
  rw [colons]
  exact read

private theorem mapped_of_toIpv4Mapped
    {groups octets : List Nat} (mapped : toIpv4Mapped groups = some octets) :
    ∃ high low, groups = [0, 0, 0, 0, 0, 65535, high, low] ∧
      octets = [high / 256, high % 256, low / 256, low % 256] := by
  rw [toIpv4Mapped.eq_def] at mapped
  split at mapped
  · next first second third fourth fifth marker high low =>
      by_cases zeros :
          first = 0 ∧ second = 0 ∧ third = 0 ∧ fourth = 0 ∧ fifth = 0 ∧ marker = 65535
      · rw [if_pos zeros, Option.some.injEq] at mapped
        obtain ⟨rfl, rfl, rfl, rfl, rfl, rfl⟩ := zeros
        exact ⟨high, low, rfl, mapped.symm⟩
      · rw [if_neg zeros] at mapped
        exact absurd mapped (by simp)
  · exact absurd mapped (by simp)

theorem readIpv6Addr_write
    {groups : List Nat} (eight : groups.length = 8)
    (bounded : ∀ group ∈ groups, group ≤ 65535) {rest : List Char} (ends : EndsGroups rest) :
    readIpv6Addr (writeIpv6Addr groups ++ rest) = some (groups, rest) := by
  rw [writeIpv6Addr]
  cases mapped : toIpv4Mapped groups with
  | some octets =>
      obtain ⟨high, low, rfl, rfl⟩ := mapped_of_toIpv4Mapped mapped
      rw [List.append_assoc]
      exact readIpv6Addr_mapped (bounded high (by simp)) (bounded low (by simp)) ends
  | none =>
      have split := (longestZeroes_whole groups).split
      simp only
      generalize longestZeroes 0 ⟨0, 0⟩ ⟨0, 0⟩ groups = zeroes at split ⊢
      obtain ⟨whole, total⟩ := split
      by_cases several : 1 < zeroes.length
      · have frontBounded : ∀ group ∈ groups.take zeroes.start, group ≤ 65535 :=
          fun group member => bounded group ((List.take_sublist _ _).subset member)
        have backBounded : ∀ group ∈ groups.drop (zeroes.start + zeroes.length),
            group ≤ 65535 :=
          fun group member => bounded group ((List.drop_sublist _ _).subset member)
        rw [if_pos several]
        generalize groups.take zeroes.start = front at whole total frontBounded ⊢
        generalize groups.drop (zeroes.start + zeroes.length) = back at whole total backBounded ⊢
        have gap : EndsGroups (':' :: ':' :: (writeSeparated ':' 16 0 back ++ rest)) :=
          endsGroups_colon (digitFree_cons (by decide))
        have readFront := @readIpv6Groups_write 8 front frontBounded _ gap 8 (Nat.le_refl 8)
          (by omega)
        have readBack := @readIpv6Groups_write (8 - (front.length + 1)) back backBounded _ ends
          (8 - (front.length + 1)) (Nat.le_refl _) (by omega)
        have zeros : 8 - front.length - back.length = zeroes.length := by omega
        have short : front.length ≠ 8 := by omega
        rw [Nat.sub_self] at readFront readBack
        have colons : "::".toList = [':', ':'] := by decide
        have read := readIpv6Addr_compressed readFront short readBack
        rw [zeros, List.append_assoc, whole] at read
        rw [colons]
        simpa only [List.append_assoc, List.cons_append, List.nil_append] using read
      · have readAll := @readIpv6Groups_write 8 groups bounded _ ends 8 (Nat.le_refl 8)
          (by omega)
        rw [Nat.sub_self] at readAll
        rw [if_neg several, readIpv6Addr]
        simp only [readAll, eight, if_true]

/-- A written address is read back. -/
theorem parseSocketAddr_write {address : SocketAddr} (wellFormed : address.WellFormed) :
    parseSocketAddr (writeSocketAddr address) = some address := by
  have readDigits : ∀ bound, ∀ number ≤ bound, ∀ rest, DigitFree 10 rest →
      readNumber 10 none true bound (Nat.toDigits 10 number ++ rest) = some (number, rest) :=
    fun bound number bounded rest stops =>
      readNumber_toDigits (by decide) (by decide) none true bounded (by simp) stops
  have readPort_write : ∀ port ≤ 65535, readPort (writePort port) = some (port, []) := by
    intro port bounded
    have number := readDigits 65535 port bounded [] (by simp [DigitFree])
    rw [List.append_nil] at number
    simp only [readPort, writePort, readGivenChar, if_true, Option.bind_some, number]
  cases address with
  | v4 octets port =>
      obtain ⟨four, bytes, portBound⟩ := wellFormed
      have colon : DigitFree 10 (writePort port) := digitFree_cons (by decide)
      have read := readIpv4Addr_write four bytes colon
      simp only [parseSocketAddr, parseWith, readSocketAddr, readSocketAddrV4, writeSocketAddr,
        read, Option.bind_some, readPort_write port portBound, Option.map_some,
        Option.orElse_some]
  | v6 groups scopeId port =>
      obtain ⟨eight, bounded, scopeBound, portBound⟩ := wellFormed
      have notDotted : ∀ rest, readIpv4Addr ('[' :: rest) = none :=
        fun rest => readIpv4Addr_none (digitFree_cons (by decide))
      have closed : DigitFree 10 (']' :: writePort port) := digitFree_cons (by decide)
      have scope : (readScopeId (writeScopeId scopeId ++ ']' :: writePort port)).getD
          (0, writeScopeId scopeId ++ ']' :: writePort port) =
            (scopeId, ']' :: writePort port) := by
        by_cases zero : scopeId = 0
        · simp [writeScopeId, zero, readScopeId, readGivenChar]
        · have number := readDigits 4294967295 scopeId scopeBound _ closed
          simp [writeScopeId, zero, readScopeId, readGivenChar, number]
      have ends : EndsGroups (writeScopeId scopeId ++ ']' :: writePort port) := by
        by_cases zero : scopeId = 0
        · rw [writeScopeId, if_pos zero]
          exact endsGroups_symbol (by decide) (by decide) (by decide) _
        · rw [writeScopeId, if_neg zero]
          exact endsGroups_symbol (by decide) (by decide) (by decide) _
      have read := readIpv6Addr_write eight bounded ends
      simp only [parseSocketAddr, parseWith, readSocketAddr, readSocketAddrV4, writeSocketAddr,
        notDotted, Option.bind_none, Option.orElse_none, readSocketAddrV6, readGivenChar,
        if_true, Option.bind_some, read, scope, readPort_write port portBound,
        Option.map_some]

/-! ## What a reader accepts -/

/-- The symbols that address texts are made of. -/
def isAddressSymbol (symbol : Char) : Bool :=
  (toDigit 16 symbol).isSome || symbol == '.' || symbol == ':' || symbol == '[' ||
    symbol == ']' || symbol == '%'

/-- A reader takes address symbols off the front and gives acceptable values. -/
def Consumes {α : Type} (reader : Reader α) (acceptable : α → Prop) : Prop :=
  ∀ input value rest, reader input = some (value, rest) →
    acceptable value ∧
      ∃ consumed, input = consumed ++ rest ∧ ∀ symbol ∈ consumed, isAddressSymbol symbol

theorem consumes_givenChar {expected : Char} (known : isAddressSymbol expected = true) :
    Consumes (readGivenChar expected) (fun _ => True) := by
  intro input value rest read
  cases input with
  | nil => exact absurd read (by simp [readGivenChar])
  | cons symbol unread =>
      simp only [readGivenChar, Option.ite_none_right_eq_some, Option.some.injEq,
        Prod.mk.injEq, true_and] at read
      refine ⟨trivial, [symbol], by simp [read.2], ?_⟩
      intro other member
      rw [List.mem_singleton] at member
      rw [member, read.1]
      exact known

theorem consumes_number
    {radix : Nat} (small : radix ≤ 16) (maxDigits : Option Nat) (allowZeroPrefix : Bool)
    (bound : Nat) :
    Consumes (readNumber radix maxDigits allowZeroPrefix bound) (· ≤ bound) := by
  intro input number rest read
  obtain ⟨bounded, whole, -⟩ := readNumber_rest read
  refine ⟨bounded, _, whole, ?_⟩
  intro symbol member
  have digit := List.all_eq_true.1 List.all_takeWhile symbol member
  have widened : (toDigit 16 symbol).isSome = true := by
    obtain ⟨value, isDigit⟩ := Option.isSome_iff_exists.1 digit
    rw [toDigit, Option.filter_eq_some_iff] at isDigit
    have bound := of_decide_eq_true isDigit.2
    rw [toDigit, isDigit.1, Option.isSome_iff_exists]
    exact ⟨value, Option.filter_eq_some_iff.2 ⟨rfl, decide_eq_true (by omega)⟩⟩
  simp [isAddressSymbol, widened]

/-- Reading one part and then another reads both. -/
theorem Consumes.bind
    {α β : Type} {first : Reader α} {second : α → Reader β}
    {acceptable : α → Prop} {result : β → Prop}
    (readsFirst : Consumes first acceptable)
    (readsSecond : ∀ value, acceptable value → Consumes (second value) result) :
    Consumes (fun input => (first input).bind fun (value, rest) => second value rest)
      result := by
  intro input value rest read
  obtain ⟨⟨middle, unread⟩, readFirst, readRest⟩ := Option.bind_eq_some_iff.1 read
  obtain ⟨accepted, front, whole, frontKnown⟩ := readsFirst _ _ _ readFirst
  obtain ⟨final, back, wholeRest, backKnown⟩ := readsSecond middle accepted _ _ _ readRest
  refine ⟨final, front ++ back, by rw [whole, wholeRest, List.append_assoc], ?_⟩
  intro symbol member
  exact (List.mem_append.1 member).elim (frontKnown symbol) (backKnown symbol)

theorem Consumes.map
    {α β : Type} {reader : Reader α} {convert : α → β}
    {acceptable : α → Prop} {result : β → Prop}
    (reads : Consumes reader acceptable)
    (converts : ∀ value, acceptable value → result (convert value)) :
    Consumes (fun input => (reader input).map fun (value, rest) => (convert value, rest))
      result := by
  intro input value rest read
  obtain ⟨⟨original, unread⟩, readOriginal, same⟩ := Option.map_eq_some_iff.1 read
  obtain ⟨accepted, known⟩ := reads _ _ _ readOriginal
  rw [Prod.mk.injEq] at same
  obtain ⟨rfl, rfl⟩ := same
  exact ⟨converts original accepted, known⟩

theorem consumes_separator
    {α : Type} {separator : Char} (known : isAddressSymbol separator = true) (index : Nat)
    {inner : Reader α} {acceptable : α → Prop} (reads : Consumes inner acceptable) :
    Consumes (readSeparator separator index inner) acceptable := by
  by_cases start : index = 0
  · intro input value rest read
    simp only [readSeparator, start, if_true] at read
    exact reads input value rest read
  · intro input value rest read
    simp only [readSeparator, start, if_false] at read
    exact (consumes_givenChar known).bind (fun _ _ => reads) input value rest read

/-- Octets, or groups, of a wanted number and size. -/
def Parts (count bound : Nat) (parts : List Nat) : Prop :=
  parts.length = count ∧ ∀ part ∈ parts, part ≤ bound

theorem consumes_ipv4Octets (missing index : Nat) :
    Consumes (readIpv4Octets missing index) (Parts missing 255) := by
  induction missing generalizing index with
  | zero =>
      intro input octets rest read
      simp only [readIpv4Octets, Option.some.injEq, Prod.mk.injEq] at read
      exact ⟨by simp [← read.1, Parts], [], by simp [read.2], by simp⟩
  | succ missing inductionHypothesis =>
      have octet : Consumes (readSeparator '.' index (readNumber 10 (some 3) false 255))
          (· ≤ 255) :=
        consumes_separator (by decide) index (consumes_number (by decide) (some 3) false 255)
      have octets : ∀ first ≤ 255,
          Consumes (fun input => (readIpv4Octets missing (index + 1) input).map
            fun result => (first :: result.1, result.2)) (Parts (missing + 1) 255) := by
        intro first small
        apply (inductionHypothesis (index + 1)).map
        intro octets parts
        refine ⟨by simp [parts.1], ?_⟩
        intro part member
        rw [List.mem_cons] at member
        exact member.elim (fun same => same ▸ small) (parts.2 part)
      exact octet.bind octets

theorem consumes_ipv4Addr : Consumes readIpv4Addr (Parts 4 255) :=
  consumes_ipv4Octets 4 0

/-- The groups read lie in the front of the input, and so many were wanted. -/
theorem readIpv6Groups_consumes
    {limit missing : Nat} {input rest : List Char} {groups : List Nat} {dotted : Bool}
    (read : readIpv6Groups limit missing input = ((groups, dotted), rest)) :
    (groups.length ≤ missing ∧ ∀ group ∈ groups, group ≤ 65535) ∧
      ∃ consumed, input = consumed ++ rest ∧ ∀ symbol ∈ consumed, isAddressSymbol symbol := by
  induction missing generalizing input rest groups dotted with
  | zero =>
      simp only [readIpv6Groups, Prod.mk.injEq] at read
      exact ⟨by simp [← read.1.1], [], by simp [read.2], by simp⟩
  | succ missing inductionHypothesis =>
      have dottedReads : Consumes
          (readSeparator ':' (limit - (missing + 1)) readIpv4Addr) (Parts 4 255) :=
        consumes_separator (by decide) _ consumes_ipv4Addr
      have groupReads : Consumes (readSeparator ':' (limit - (missing + 1))
          (readNumber 16 (some 4) true 65535)) (· ≤ 65535) :=
        consumes_separator (by decide) _ (consumes_number (by decide) (some 4) true 65535)
      simp only [readIpv6Groups] at read
      split at read
      · next first second third fourth unread embedded =>
          by_cases last : missing = 0
          · rw [if_pos last] at embedded
            exact absurd embedded (by simp)
          · rw [if_neg last] at embedded
            obtain ⟨parts, consumed⟩ := dottedReads _ _ _ embedded
            have firstSmall := parts.2 first (by simp)
            have secondSmall := parts.2 second (by simp)
            have thirdSmall := parts.2 third (by simp)
            have fourthSmall := parts.2 fourth (by simp)
            simp only [Prod.mk.injEq] at read
            obtain ⟨⟨rfl, -⟩, rfl⟩ := read
            refine ⟨⟨by simp; omega, ?_⟩, consumed⟩
            intro group member
            simp only [List.mem_cons, List.not_mem_nil, or_false] at member
            omega
      · split at read
        · next group unread readGroup =>
            obtain ⟨small, front, whole, frontKnown⟩ := groupReads _ _ _ readGroup
            obtain ⟨⟨room, bounded⟩, back, wholeRest, backKnown⟩ :=
              @inductionHypothesis unread _ _ _ rfl
            simp only [Prod.mk.injEq] at read
            obtain ⟨⟨rfl, -⟩, rfl⟩ := read
            refine ⟨⟨by simpa using room, ?_⟩, front ++ back, ?_, ?_⟩
            · intro other member
              rw [List.mem_cons] at member
              exact member.elim (fun same => same ▸ small) (bounded other)
            · rw [List.append_assoc, ← wholeRest]
              exact whole
            · intro symbol member
              exact (List.mem_append.1 member).elim (frontKnown symbol) (backKnown symbol)
        · simp only [Prod.mk.injEq] at read
          exact ⟨by simp [← read.1.1], [], by simp [read.2], by simp⟩

theorem consumes_ipv6Addr : Consumes readIpv6Addr (Parts 8 65535) := by
  intro input groups rest read
  rw [readIpv6Addr] at read
  cases readFront : readIpv6Groups 8 8 input with
  | mk frontResult unread =>
      obtain ⟨front, dotted⟩ := frontResult
      obtain ⟨⟨frontRoom, frontBounded⟩, first, whole, firstKnown⟩ :=
        readIpv6Groups_consumes readFront
      simp only [readFront] at read
      by_cases full : front.length = 8
      · rw [if_pos full, Option.some.injEq, Prod.mk.injEq] at read
        obtain ⟨rfl, rfl⟩ := read
        exact ⟨⟨full, frontBounded⟩, first, whole, firstKnown⟩
      · rw [if_neg full] at read
        by_cases ended : dotted = true
        · rw [if_pos ended] at read
          exact absurd read (by simp)
        · rw [if_neg ended] at read
          obtain ⟨⟨_, afterColon⟩, firstColon, readRest⟩ := Option.bind_eq_some_iff.1 read
          obtain ⟨⟨_, middle⟩, secondColon, same⟩ := Option.map_eq_some_iff.1 readRest
          obtain ⟨-, one, wholeOne, oneKnown⟩ :=
            consumes_givenChar (by decide) _ _ _ firstColon
          obtain ⟨-, two, wholeTwo, twoKnown⟩ :=
            consumes_givenChar (by decide) _ _ _ secondColon
          cases readBack : readIpv6Groups (8 - (front.length + 1)) (8 - (front.length + 1))
              middle with
          | mk backResult rest' =>
              obtain ⟨back, backDotted⟩ := backResult
              obtain ⟨⟨backRoom, backBounded⟩, last, wholeBack, lastKnown⟩ :=
                readIpv6Groups_consumes readBack
              simp only [readBack, Prod.mk.injEq] at same
              obtain ⟨rfl, rfl⟩ := same
              refine ⟨⟨?_, ?_⟩, first ++ (one ++ (two ++ last)), ?_, ?_⟩
              · simp only [List.length_append, List.length_replicate]
                omega
              · intro group member
                simp only [List.mem_append, List.mem_replicate] at member
                rcases member with (inFront | zero) | inBack
                · exact frontBounded group inFront
                · omega
                · exact backBounded group inBack
              · simp only [List.append_assoc]
                rw [← wholeBack, ← wholeTwo, ← wholeOne]
                exact whole
              · intro symbol member
                simp only [List.mem_append] at member
                rcases member with inFirst | inOne | inTwo | inLast
                · exact firstKnown symbol inFirst
                · exact oneKnown symbol inOne
                · exact twoKnown symbol inTwo
                · exact lastKnown symbol inLast

theorem consumes_port : Consumes readPort (· ≤ 65535) :=
  (consumes_givenChar (by decide)).bind fun _ _ => consumes_number (by decide) none true 65535

theorem consumes_scopeId : Consumes readScopeId (· ≤ 4294967295) :=
  (consumes_givenChar (by decide)).bind fun _ _ =>
    consumes_number (by decide) none true 4294967295

theorem consumes_socketAddr : Consumes readSocketAddr SocketAddr.WellFormed := by
  have dotted : Consumes readSocketAddrV4 SocketAddr.WellFormed :=
    consumes_ipv4Addr.bind fun octets parts =>
      consumes_port.map fun port bounded => ⟨parts.1, parts.2, bounded⟩
  -- A missing scope consumes nothing and counts as zero.
  have inScope : Consumes (fun input => some ((readScopeId input).getD (0, input)))
      (· ≤ 4294967295) := by
    intro input scopeId rest read
    rw [Option.some.injEq] at read
    cases found : readScopeId input with
    | none =>
        rw [found, Option.getD_none, Prod.mk.injEq] at read
        exact ⟨by omega, [], by simp [read.2], by simp⟩
    | some result =>
        rw [found, Option.getD_some] at read
        exact consumes_scopeId _ _ _ (read ▸ found)
  have closing : ∀ groups, Parts 8 65535 groups → ∀ scopeId ≤ 4294967295,
      Consumes (fun input => (readGivenChar ']' input).bind fun closed =>
        (readPort closed.2).map fun result => (.v6 groups scopeId result.1, result.2))
        SocketAddr.WellFormed :=
    fun groups parts scopeId scopeBound =>
      (consumes_givenChar (by decide)).bind fun _ _ =>
        consumes_port.map fun port bounded => ⟨parts.1, parts.2, scopeBound, bounded⟩
  have inner : ∀ groups, Parts 8 65535 groups → Consumes (fun input =>
      (some ((readScopeId input).getD (0, input))).bind fun inner =>
        (readGivenChar ']' inner.2).bind fun closed =>
          (readPort closed.2).map fun result => (.v6 groups inner.1 result.1, result.2))
      SocketAddr.WellFormed :=
    fun groups parts => inScope.bind fun scopeId scopeBound =>
      closing groups parts scopeId scopeBound
  have opening : Consumes (readGivenChar '[') (fun _ => True) :=
    consumes_givenChar (by decide)
  have bracketed : Consumes readSocketAddrV6 SocketAddr.WellFormed :=
    opening.bind fun _ _ => consumes_ipv6Addr.bind inner
  intro input address rest read
  rw [readSocketAddr] at read
  cases found : readSocketAddrV4 input with
  | some result =>
      rw [found, Option.orElse_some] at read
      exact dotted _ _ _ (found.trans read)
  | none =>
      rw [found, Option.orElse_none] at read
      exact bracketed _ _ _ read

/-- An accepted text denotes a well-formed address and has its symbols only. -/
theorem parseSocketAddr_accepts
    {text : List Char} {address : SocketAddr} (parsed : parseSocketAddr text = some address) :
    address.WellFormed ∧ ∀ symbol ∈ text, isAddressSymbol symbol := by
  rw [parseSocketAddr, parseWith] at parsed
  split at parsed
  · next value read =>
      obtain ⟨wellFormed, consumed, whole, known⟩ := consumes_socketAddr _ _ _ read
      rw [Option.some.injEq] at parsed
      rw [List.append_nil] at whole
      exact ⟨parsed ▸ wellFormed, whole ▸ known⟩
  · exact absurd parsed (by simp)

theorem not_whiteSpace_of_isAddressSymbol
    {symbol : Char} (known : isAddressSymbol symbol = true) : isWhiteSpace symbol = false := by
  have digit : (toDigit 16 symbol).isSome = true →
      0x30 ≤ symbol.toNat ∧ symbol.toNat ≤ 0x66 := by
    intro isDigit
    obtain ⟨value, found⟩ := Option.isSome_iff_exists.1 isDigit
    have kind := (Option.filter_eq_some_iff.1 found).1
    simp only [Char.isDigit, ge_iff_le, Bool.and_eq_true, decide_eq_true_eq] at kind
    by_cases decimal : '0'.val ≤ symbol.val ∧ symbol.val ≤ '9'.val
    · have lower : 0x30 ≤ symbol.toNat := toNat_le_of_le decimal.1
      have upper : symbol.toNat ≤ 0x39 := toNat_le_of_le decimal.2
      omega
    · rw [if_neg decimal] at kind
      by_cases lowerCase : 'a' ≤ symbol ∧ symbol ≤ 'f'
      · have lower : 0x61 ≤ symbol.toNat := toNat_le_of_le lowerCase.1
        have upper : symbol.toNat ≤ 0x66 := toNat_le_of_le lowerCase.2
        omega
      · rw [if_neg lowerCase] at kind
        by_cases upperCase : 'A' ≤ symbol ∧ symbol ≤ 'F'
        · have lower : 0x41 ≤ symbol.toNat := toNat_le_of_le upperCase.1
          have upper : symbol.toNat ≤ 0x46 := toNat_le_of_le upperCase.2
          omega
        · rw [if_neg upperCase] at kind
          exact absurd kind (by simp)
  simp only [isAddressSymbol, Bool.or_eq_true, beq_iff_eq] at known
  rcases known with (((((isDigit | rfl) | rfl) | rfl) | rfl) | rfl)
  · have range := digit isDigit
    exact not_whiteSpace_of_visible (by omega) (by omega)
  all_goals decide

end Text
