import Chaft.Library.Text
import Chaft.Storage.BlobDescriptor
import Mathlib.Data.Nat.Digits.Defs

/-!
# Manifest files

A manifest file is the compact JSON of a descriptor.  Its hashes are hexadecimal,
so that nothing in it is escaped.  Reading JSON is a matter of the JSON library,
which is a parameter; what is used of it is that it reads back what was written.

The length of the file is that of the fixed parts, of two numbers and of 67 bytes
for each chunk.  The limit on the file is therefore a limit on the chunks.
-/

namespace Chaft

open Text

/-! ## Writing -/

def quoted (text : String) : List Char :=
  '"' :: (text.toList ++ ['"'])

/-- The name of a field of a JSON object. -/
def field (name : String) : List Char :=
  quoted name ++ [':']

/-- The compact JSON of a descriptor. -/
def manifestText (descriptor : BlobDescriptor) : List Char :=
  '\x7b' :: (field "hash" ++ (quoted descriptor.hash ++ ',' ::
    (field "byte_len" ++ (descriptor.byteLen.toNat.repr.toList ++ ',' ::
      (field "chunk_size" ++ (descriptor.chunkSize.toNat.repr.toList ++ ',' ::
        (field "chunk_hashes" ++ '[' ::
          ([','].intercalate (descriptor.chunkHashes.map quoted) ++ [']', '\x7d']))))))))

/-- `serde_json::to_vec` of a descriptor; all characters are ASCII. -/
def manifestJson (descriptor : BlobDescriptor) : Bytes :=
  (manifestText descriptor).map fun symbol => UInt8.ofNat symbol.toNat

/-- The JSON library reads back the manifests of valid descriptors. -/
def ReadsManifests (fromSlice : Bytes → Option BlobDescriptor) : Prop :=
  ∀ descriptor : BlobDescriptor, descriptor.Valid →
    fromSlice (manifestJson descriptor) = some descriptor

/-! ## The length of a manifest -/

/-- How many chunks a manifest within the limit can name. -/
def manifestChunkLimit : Nat := 15648

theorem length_quoted {hash : String} (isHash : isBlobHash hash = true) :
    (quoted hash).length = 66 := by
  simp only [isBlobHash, Bool.and_eq_true, decide_eq_true_eq] at isHash
  simp [quoted, isHash.1]

/-- Items of one length, separated by commas. -/
private theorem length_intercalate
    {items : List (List Char)} {length : Nat} (same : ∀ item ∈ items, item.length = length)
    (some : items ≠ []) :
    ([','].intercalate items).length + 1 = (length + 1) * items.length := by
  induction items with
  | nil => exact absurd rfl some
  | cons head rest inductionHypothesis =>
      have headLength := same head List.mem_cons_self
      cases rest with
      | nil => simp [headLength]
      | cons next rest =>
          have restLength :=
            inductionHypothesis (fun item member => same item (List.mem_cons_of_mem head member))
              (List.cons_ne_nil next rest)
          rw [List.intercalate_cons_cons]
          simp only [List.length_append, List.length_cons, List.length_nil, headLength]
            at restLength ⊢
          have oneMore :
              (length + 1) * (rest.length + 1 + 1) =
                (length + 1) * (rest.length + 1) + (length + 1) :=
            Nat.mul_succ _ _
          omega

private theorem length_hashes {descriptor : BlobDescriptor} (valid : descriptor.Valid) :
    ([','].intercalate (descriptor.chunkHashes.map quoted)).length =
      67 * descriptor.chunkHashes.length - 1 := by
  by_cases none : descriptor.chunkHashes = []
  · simp [none]
  · have same : ∀ item ∈ descriptor.chunkHashes.map quoted, item.length = 66 := by
      intro item member
      obtain ⟨chunkHash, listed, rfl⟩ := List.mem_map.mp member
      exact length_quoted (valid.chunkHashes chunkHash listed)
    have total := length_intercalate same (by simpa using none)
    rw [List.length_map] at total
    omega

theorem length_manifestJson {descriptor : BlobDescriptor} (valid : descriptor.Valid) :
    (manifestJson descriptor).length =
      119 + (Nat.toDigits 10 descriptor.byteLen.toNat).length +
        (Nat.toDigits 10 descriptor.chunkSize.toNat).length +
          (67 * descriptor.chunkHashes.length - 1) := by
  have hash : (field "hash").length = 7 := by simp [field, quoted]
  have byteLen : (field "byte_len").length = 11 := by simp [field, quoted]
  have chunkSize : (field "chunk_size").length = 13 := by simp [field, quoted]
  have chunkHashes : (field "chunk_hashes").length = 15 := by simp [field, quoted]
  simp only [manifestJson, manifestText, List.length_map, List.length_append, List.length_cons,
    List.length_nil, length_quoted valid.hash, length_hashes valid, Nat.toList_repr, hash,
    byteLen, chunkSize, chunkHashes]
  omega

private theorem length_toDigits_word (word : UInt64) :
    (Nat.toDigits 10 word.toNat).length ≤ 20 := by
  rw [Nat.length_toDigits_le_iff (by decide) (by decide)]
  have bound := word.toNat_lt
  omega

/-- The limit on the manifest file is a limit on the number of chunks. -/
theorem manifestJson_fits_iff {descriptor : BlobDescriptor} (valid : descriptor.Valid) :
    (manifestJson descriptor).length ≤ blobManifestMaxBytes ↔
      descriptor.chunkHashes.length ≤ manifestChunkLimit := by
  have byteLenDigits := length_toDigits_word descriptor.byteLen
  have chunkSizeDigits := length_toDigits_word descriptor.chunkSize
  rw [length_manifestJson valid, blobManifestMaxBytes, manifestChunkLimit]
  omega

/-! ## A reader of the compact form -/

def readWord (digits : List Char) : Option UInt64 :=
  let value := Nat.ofDigitChars 10 digits 0
  if digits ≠ [] ∧ digits.all Char.isDigit = true ∧ value < 2 ^ 64 then
    some (UInt64.ofNat value)
  else
    none

def readQuoted (text : List Char) : Option String := do
  let text ← stripPrefix ['"'] text
  let (content, rest) ← splitOnce ['"'] text
  if rest = [] then some (String.ofList content) else none

def readHashes (text : List Char) : Option (List String) :=
  if text = [] then some [] else (text.splitOn ',').mapM readQuoted

def readManifestText (text : List Char) : Option BlobDescriptor := do
  let text ← stripPrefix ('\x7b' :: (field "hash" ++ ['"'])) text
  let (hash, text) ← splitOnce ['"'] text
  let text ← stripPrefix (',' :: field "byte_len") text
  let (byteLen, text) ← splitOnce [','] text
  let byteLen ← readWord byteLen
  let text ← stripPrefix (field "chunk_size") text
  let (chunkSize, text) ← splitOnce [','] text
  let chunkSize ← readWord chunkSize
  let text ← stripPrefix (field "chunk_hashes" ++ ['[']) text
  let (hashes, text) ← splitOnce [']'] text
  let chunkHashes ← readHashes hashes
  if text = ['\x7d'] then
    some
      { hash := String.ofList hash
        byteLen := byteLen
        chunkSize := chunkSize
        chunkHashes := chunkHashes }
  else
    none

/-- Read a manifest in the form in which it is written. -/
def readManifest (bytes : Bytes) : Option BlobDescriptor :=
  readManifestText (bytes.map fun byte => Char.ofNat byte.toNat)

theorem readWord_repr (word : UInt64) : readWord word.toNat.repr.toList = some word := by
  have digits : (Nat.toDigits 10 word.toNat).all Char.isDigit = true := by
    rw [List.all_eq_true]
    intro symbol member
    exact Nat.isDigit_of_mem_toDigits (by decide) (by decide) member
  have bound := word.toNat_lt
  rw [readWord, Nat.toList_repr]
  simp only [Nat.ofDigitChars_ten_toDigits]
  rw [if_pos ⟨Nat.toDigits_ne_nil, digits, bound⟩]
  simp

private theorem not_mem_of_isBlobHash
    {hash : String} (isHash : isBlobHash hash = true) {symbol : Char}
    (noDigit : isLowerHexDigit symbol = false) : symbol ∉ hash.toList := by
  intro member
  simp only [isBlobHash, Bool.and_eq_true, List.all_eq_true] at isHash
  have digit := isHash.2 symbol member
  rw [noDigit] at digit
  exact Bool.false_ne_true digit

private theorem not_mem_repr
    (number : Nat) {symbol : Char} (noDigit : symbol.isDigit = false) :
    symbol ∉ number.repr.toList := by
  intro member
  rw [Nat.toList_repr] at member
  have digit := Nat.isDigit_of_mem_toDigits (by decide) (by decide) member
  rw [noDigit] at digit
  exact Bool.false_ne_true digit

theorem readQuoted_quoted {hash : String} (isHash : isBlobHash hash = true) :
    readQuoted (quoted hash) = some hash := by
  have absent : '"' ∉ hash.toList := not_mem_of_isBlobHash isHash (by decide)
  have opened := stripPrefix_append ['"'] (hash.toList ++ ['"'])
  have closed := splitOnce_append absent []
  rw [List.singleton_append] at opened
  simp [readQuoted, quoted, opened, closed]

private theorem not_mem_quoted
    {hash : String} (isHash : isBlobHash hash = true) {symbol : Char}
    (noDigit : isLowerHexDigit symbol = false) (noQuote : symbol ≠ '"') :
    symbol ∉ quoted hash := by
  have absent := not_mem_of_isBlobHash isHash noDigit
  simp [quoted, noQuote, absent]

theorem readHashes_intercalate
    {hashes : List String} (areHashes : ∀ hash ∈ hashes, isBlobHash hash = true) :
    readHashes ([','].intercalate (hashes.map quoted)) = some hashes := by
  cases hashes with
  | nil => rfl
  | cons head rest =>
      have absent : ∀ item ∈ (head :: rest).map quoted, ',' ∉ item := by
        intro item member
        obtain ⟨hash, listed, rfl⟩ := List.mem_map.mp member
        exact not_mem_quoted (areHashes hash listed) (by decide) (by decide)
      have written : [','].intercalate ((head :: rest).map quoted) ≠ [] := by
        cases rest <;> simp [quoted, List.intercalate_cons_cons]
      rw [readHashes, if_neg written, List.splitOn_intercalate ',' absent (by simp)]
      have each : ∀ items : List String, (∀ hash ∈ items, isBlobHash hash = true) →
          (items.map quoted).mapM readQuoted = some items := by
        intro items
        induction items with
        | nil =>
            intro _
            rfl
        | cons hash items inductionHypothesis =>
            intro every
            have first := readQuoted_quoted (every hash List.mem_cons_self)
            have others :=
              inductionHypothesis fun other member =>
                every other (List.mem_cons_of_mem hash member)
            simp [first, others]
      exact each (head :: rest) areHashes

private theorem not_mem_hashes
    {hashes : List String} (areHashes : ∀ hash ∈ hashes, isBlobHash hash = true) :
    ']' ∉ [','].intercalate (hashes.map quoted) := by
  induction hashes with
  | nil => simp
  | cons head rest inductionHypothesis =>
      have headClear : ']' ∉ quoted head :=
        not_mem_quoted (areHashes head List.mem_cons_self) (by decide) (by decide)
      have restClear :=
        inductionHypothesis fun hash member => areHashes hash (List.mem_cons_of_mem head member)
      cases rest with
      | nil => simpa using headClear
      | cons next rest =>
          rw [List.map_cons, List.map_cons, List.intercalate_cons_cons]
          simp only [List.map_cons] at restClear
          simp [headClear, restClear]

theorem readManifestText_manifestText
    {descriptor : BlobDescriptor} (valid : descriptor.Valid) :
    readManifestText (manifestText descriptor) = some descriptor := by
  have hashClear : '"' ∉ descriptor.hash.toList :=
    not_mem_of_isBlobHash valid.hash (by decide)
  have byteLenClear : ',' ∉ descriptor.byteLen.toNat.repr.toList :=
    not_mem_repr _ (by decide)
  have chunkSizeClear : ',' ∉ descriptor.chunkSize.toNat.repr.toList :=
    not_mem_repr _ (by decide)
  have hashesClear := not_mem_hashes valid.chunkHashes
  have text :
      manifestText descriptor =
        '\x7b' :: (field "hash" ++ ['"']) ++ (descriptor.hash.toList ++ '"' ::
          (',' :: field "byte_len" ++ (descriptor.byteLen.toNat.repr.toList ++ ',' ::
            (field "chunk_size" ++ (descriptor.chunkSize.toNat.repr.toList ++ ',' ::
              (field "chunk_hashes" ++ ['['] ++
                ([','].intercalate (descriptor.chunkHashes.map quoted) ++ ']' :: ['\x7d']))))))) := by
    have hashText : quoted descriptor.hash = '"' :: (descriptor.hash.toList ++ ['"']) := rfl
    simp only [manifestText, hashText, List.append_assoc, List.cons_append, List.nil_append]
  rw [text, readManifestText]
  simp only [stripPrefix_append, Option.bind_eq_bind, Option.bind_some,
    splitOnce_append hashClear, splitOnce_append byteLenClear, readWord_repr,
    splitOnce_append chunkSizeClear, splitOnce_append hashesClear,
    readHashes_intercalate valid.chunkHashes]
  simp

private theorem ascii_quoted {hash : String} (isHash : isBlobHash hash = true) :
    ∀ symbol ∈ quoted hash, symbol.toNat < 128 := by
  simp only [isBlobHash, Bool.and_eq_true, List.all_eq_true] at isHash
  simp only [quoted, List.forall_mem_cons, List.forall_mem_append]
  refine ⟨by decide, ?_, by decide, List.forall_mem_nil _⟩
  intro symbol member
  have digit := isHash.2 symbol member
  have bounds :
      48 ≤ symbol.toNat ∧ symbol.toNat ≤ 57 ∨ 97 ≤ symbol.toNat ∧ symbol.toNat ≤ 102 := by
    simpa [isLowerHexDigit, Char.le_def, UInt32.le_iff_toNat_le] using digit
  omega

private theorem ascii_repr (number : Nat) :
    ∀ symbol ∈ number.repr.toList, symbol.toNat < 128 := by
  intro symbol member
  rw [Nat.toList_repr] at member
  have digit := Nat.isDigit_of_mem_toDigits (by decide) (by decide) member
  simp only [Char.isDigit, Bool.and_eq_true, decide_eq_true_eq, UInt32.le_iff_toNat_le] at digit
  have bound : symbol.toNat ≤ 57 := digit.2
  omega

private theorem ascii_hashes
    {hashes : List String} (areHashes : ∀ hash ∈ hashes, isBlobHash hash = true) :
    ∀ symbol ∈ [','].intercalate (hashes.map quoted), symbol.toNat < 128 := by
  induction hashes with
  | nil => simp
  | cons head rest inductionHypothesis =>
      have headAscii := ascii_quoted (areHashes head List.mem_cons_self)
      have restAscii :=
        inductionHypothesis fun hash member => areHashes hash (List.mem_cons_of_mem head member)
      cases rest with
      | nil => simpa using headAscii
      | cons next rest =>
          rw [List.map_cons, List.map_cons, List.intercalate_cons_cons]
          rw [List.map_cons] at restAscii
          simp only [List.forall_mem_append, List.forall_mem_cons]
          exact ⟨⟨headAscii, by decide, by simp⟩, restAscii⟩

private theorem ascii_manifestText
    {descriptor : BlobDescriptor} (valid : descriptor.Valid) :
    ∀ symbol ∈ manifestText descriptor, symbol.toNat < 128 := by
  have checked :
      (["hash", "byte_len", "chunk_size", "chunk_hashes"].all fun name =>
        (field name).all fun symbol => decide (symbol.toNat < 128)) = true := by
    decide +kernel
  have fields :
      ∀ name ∈ ["hash", "byte_len", "chunk_size", "chunk_hashes"], ∀ symbol ∈ field name,
        symbol.toNat < 128 := by
    intro name listed symbol member
    exact of_decide_eq_true
      (List.all_eq_true.mp (List.all_eq_true.mp checked name listed) symbol member)
  simp only [manifestText, List.forall_mem_append, List.forall_mem_cons]
  exact ⟨by decide, fields _ (by simp), ascii_quoted valid.hash, by decide, fields _ (by simp),
    ascii_repr _, by decide, fields _ (by simp), ascii_repr _, by decide, fields _ (by simp),
    by decide, ascii_hashes valid.chunkHashes, by decide, by decide, by simp⟩

/-- The reader reads back what was written. -/
theorem readManifest_reads : ReadsManifests readManifest := by
  intro descriptor valid
  have symbols : (manifestJson descriptor).map (fun byte => Char.ofNat byte.toNat) =
      manifestText descriptor := by
    rw [manifestJson, List.map_map]
    apply (List.map_congr_left _).trans (List.map_id _)
    intro symbol member
    have ascii := ascii_manifestText valid symbol member
    have byte : (UInt8.ofNat symbol.toNat).toNat = symbol.toNat := by
      rw [UInt8.toNat_ofNat']
      omega
    rw [Function.comp_apply, byte, Char.ofNat_toNat, id_eq]
  rw [readManifest, symbols, readManifestText_manifestText valid]

end Chaft
