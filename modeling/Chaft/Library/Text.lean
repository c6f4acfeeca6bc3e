import Mathlib.Data.List.Sort

/-!
# Text scanning

String operations on lists of characters, with the meaning they have in the
standard library of the modelled programs: trimming removes the characters
with the Unicode property `White_Space`, and the splitting functions cut at
the first (or last) occurrence of a separator.

The second half reads numeric network addresses.  Each reader consumes a
front part of its input and returns the rest, or fails without consuming.
-/

namespace Text

/-- The Unicode property `White_Space`. -/
def isWhiteSpace (symbol : Char) : Bool :=
  let code := symbol.toNat
  (9 ≤ code && code ≤ 13) || code == 0x20 || code == 0x85 || code == 0xA0 ||
    code == 0x1680 || (0x2000 ≤ code && code ≤ 0x200A) || code == 0x2028 ||
    code == 0x2029 || code == 0x202F || code == 0x205F || code == 0x3000

/-- The bytes that `is_ascii_whitespace` accepts; the vertical tab is not one. -/
def isAsciiWhitespace (symbol : Char) : Bool :=
  symbol == ' ' || symbol == '\t' || symbol == '\n' ||
    symbol.toNat == 0x0C || symbol == '\r'

def trim (text : List Char) : List Char :=
  ((text.dropWhile isWhiteSpace).reverse.dropWhile isWhiteSpace).reverse

def stripPrefix (pattern text : List Char) : Option (List Char) :=
  if pattern.isPrefixOf text then
    some (text.drop pattern.length)
  else
    none

/-- Cut at the first occurrence of a separator. -/
def splitOnce (separator : List Char) : List Char → Option (List Char × List Char)
  | [] => if separator.isEmpty then some ([], []) else none
  | symbol :: rest =>
      match stripPrefix separator (symbol :: rest) with
      | some after => some ([], after)
      | none =>
          (splitOnce separator rest).map fun (before, after) =>
            (symbol :: before, after)

theorem stripPrefix_append (pattern rest : List Char) :
    stripPrefix pattern (pattern ++ rest) = some rest := by
  simp [stripPrefix]

/-- A text without the separator ends where the separator first stands. -/
theorem splitOnce_append
    {separator : Char} {before : List Char} (absent : separator ∉ before) (after : List Char) :
    splitOnce [separator] (before ++ separator :: after) = some (before, after) := by
  induction before with
  | nil =>
      have found := stripPrefix_append [separator] after
      rw [List.singleton_append] at found
      rw [List.nil_append, splitOnce, found]
  | cons symbol rest inductionHypothesis =>
      rw [List.mem_cons, not_or] at absent
      have noPrefix :
          stripPrefix [separator] (symbol :: (rest ++ separator :: after)) = none := by
        simp [stripPrefix, absent.1]
      rw [List.cons_append, splitOnce, noPrefix]
      simp only [inductionHypothesis absent.2, Option.map_some]

/-- Cut at the last occurrence of a character. -/
def rsplitOnce (separator : Char) (text : List Char) : Option (List Char × List Char) :=
  (splitOnce [separator] text.reverse).map fun (after, before) =>
    (before.reverse, after.reverse)

/-- Whether a pattern occurs somewhere in a text. -/
def contains (pattern text : List Char) : Bool :=
  (splitOnce pattern text).isSome

/-- The number a list of decimal or hexadecimal digits denotes. -/
def digitsValue (radix : Nat) (digits : List Nat) : Nat :=
  digits.foldl (fun value digit => value * radix + digit) 0

/-- The value of one digit in radix ten or sixteen. -/
def toDigit (radix : Nat) (symbol : Char) : Option Nat :=
  let value :=
    if symbol.isDigit then some (symbol.toNat - '0'.toNat)
    else if 'a' ≤ symbol && symbol ≤ 'f' then some (symbol.toNat - 'a'.toNat + 10)
    else if 'A' ≤ symbol && symbol ≤ 'F' then some (symbol.toNat - 'A'.toNat + 10)
    else none
  value.filter (· < radix)

/-! ## Network addresses -/

inductive SocketAddr where
  | v4 (octets : List Nat) (port : Nat)
  | v6 (groups : List Nat) (scopeId port : Nat)
  deriving DecidableEq, Repr

def SocketAddr.port : SocketAddr → Nat
  | .v4 _ port => port
  | .v6 _ _ port => port

/-- What a reader leaves: a value and the unread rest. -/
abbrev Reader (α : Type) := List Char → Option (α × List Char)

def readGivenChar (expected : Char) : Reader Unit
  | [] => none
  | symbol :: rest => if symbol = expected then some ((), rest) else none

/-- Read a run of digits.  A run that is empty, longer than `maxDigits`, has a
forbidden leading zero, or denotes more than `bound` is refused as a whole. -/
def readNumber
    (radix : Nat) (maxDigits : Option Nat) (allowZeroPrefix : Bool) (bound : Nat) :
    Reader Nat := fun input =>
  let run := input.takeWhile fun symbol => (toDigit radix symbol).isSome
  let value := digitsValue radix (run.filterMap (toDigit radix))
  if run.isEmpty ∨ maxDigits.any (· < run.length) ∨
      (allowZeroPrefix = false ∧ run.head? = some '0' ∧ 1 < run.length) ∨
      bound < value then
    none
  else
    some (value, input.drop run.length)

/-- Before every item but the first, a separator is read. -/
def readSeparator {α : Type} (separator : Char) (index : Nat) (inner : Reader α) :
    Reader α := fun input =>
  if index = 0 then
    inner input
  else
    (readGivenChar separator input).bind fun (_, rest) => inner rest

def readIpv4Octets : (missing : Nat) → (index : Nat) → Reader (List Nat)
  | 0, _ => fun input => some ([], input)
  | missing + 1, index => fun input =>
      (readSeparator '.' index (readNumber 10 (some 3) false 255) input).bind
        fun (octet, rest) =>
          (readIpv4Octets missing (index + 1) rest).map fun (octets, unread) =>
            (octet :: octets, unread)

def readIpv4Addr : Reader (List Nat) :=
  readIpv4Octets 4 0

/-- Read up to `limit` colon-separated groups.  While two slots are left, a
dotted address may fill them and ends the run; the flag tells whether it did. -/
def readIpv6Groups (limit : Nat) :
    (missing : Nat) → List Char → (List Nat × Bool) × List Char
  | 0, input => (([], false), input)
  | missing + 1, input =>
      let index := limit - (missing + 1)
      let embedded :=
        if missing = 0 then none else readSeparator ':' index readIpv4Addr input
      match embedded with
      | some ([first, second, third, fourth], rest) =>
          (([first * 256 + second, third * 256 + fourth], true), rest)
      | _ =>
          match readSeparator ':' index (readNumber 16 (some 4) true 65535) input with
          | some (group, rest) =>
              let ((groups, dotted), unread) := readIpv6Groups limit missing rest
              ((group :: groups, dotted), unread)
          | none => (([], false), input)

/-- Eight groups, or fewer with one `::` standing for the missing zeros. -/
def readIpv6Addr : Reader (List Nat) := fun input =>
  let ((front, dotted), rest) := readIpv6Groups 8 8 input
  if front.length = 8 then
    some (front, rest)
  else if dotted then
    none
  else
    (readGivenChar ':' rest).bind fun (_, rest) =>
      (readGivenChar ':' rest).map fun (_, rest) =>
        let limit := 8 - (front.length + 1)
        let ((back, _), unread) := readIpv6Groups limit limit rest
        (front ++ List.replicate (8 - front.length - back.length) 0 ++ back, unread)

def readPort : Reader Nat := fun input =>
  (readGivenChar ':' input).bind fun (_, rest) => readNumber 10 none true 65535 rest

def readScopeId : Reader Nat := fun input =>
  (readGivenChar '%' input).bind fun (_, rest) =>
    readNumber 10 none true 4294967295 rest

def readSocketAddrV4 : Reader SocketAddr := fun input =>
  (readIpv4Addr input).bind fun (octets, rest) =>
    (readPort rest).map fun (port, unread) => (.v4 octets port, unread)

def readSocketAddrV6 : Reader SocketAddr := fun input =>
  (readGivenChar '[' input).bind fun (_, rest) =>
    (readIpv6Addr rest).bind fun (groups, rest) =>
      let (scopeId, rest) := (readScopeId rest).getD (0, rest)
      (readGivenChar ']' rest).bind fun (_, rest) =>
        (readPort rest).map fun (port, unread) => (.v6 groups scopeId port, unread)

def readSocketAddr : Reader SocketAddr := fun input =>
  (readSocketAddrV4 input).orElse fun _ => readSocketAddrV6 input

/-- Accept a reader's value only when it read the whole text. -/
def parseWith {α : Type} (reader : Reader α) (text : List Char) : Option α :=
  match reader text with
  | some (value, []) => some value
  | _ => none

def parseIpv6Addr (text : List Char) : Option (List Nat) :=
  parseWith readIpv6Addr text

def parseSocketAddr (text : List Char) : Option SocketAddr :=
  parseWith readSocketAddr text

end Text
