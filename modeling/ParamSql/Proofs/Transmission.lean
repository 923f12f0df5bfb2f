import Mathlib.Algebra.Order.Ring.Int
import Mathlib.Tactic.Positivity
import ParamSql.Wire.Row

/-!
# Reading back what is sent

For every kind of value there is a reader of its binary form: it knows the kind
and the type that the bytes were written for, and it takes all of them or
fails.  Integers are as wide as the type, texts of some types stand behind the
version of their form, and an array says what its elements are and how long
each one is.

The main statement is that the readers take back whatever was written, for
every type, built-in or defined.  The two types of floating-point numbers are
left out, which an integer is rounded for.
-/

namespace ParamSql

/-! ## Readers of single values -/

/-- Read a truth value: one byte. -/
def readBool? : List UInt8 → Option Bool
  | [0] => some false
  | [1] => some true
  | _ => none

/-- The number of bytes in which a type has integers. -/
def WireType.intWidth? (type : WireType) : Option Nat :=
  match type.builtin? with
  | some .int2 => some 2
  | some .int4 => some 4
  | some .int8 => some 8
  | _ => none

/-- Read an integer of the width of a type. -/
def readInt? (type : WireType) (bytes : List UInt8) : Option Int64 :=
  type.intWidth?.bind fun width => (readSigned? width bytes).map Int64.ofInt

/-- Read a text, which stands behind the version of the form where the type
has one. -/
def readText? (type : WireType) (bytes : List UInt8) : Option String :=
  let content := if isVersionedText type.name then bytes.dropPrefix? [1] else some bytes
  content.bind fun content => String.fromUTF8? content.toByteArray

/-! ## Readers of arrays -/

/-- Take a number of bytes from the front. -/
def takeFront? (count : Nat) (bytes : List UInt8) : Option (List UInt8 × List UInt8) :=
  if count ≤ bytes.length then some (bytes.take count, bytes.drop count) else none

/-- Read an integer of four bytes at the front. -/
def readWord? (bytes : List UInt8) : Option (Int × List UInt8) := do
  let (front, rest) ← takeFront? 4 bytes
  let word ← readSigned? 4 front
  return (word, rest)

/-- Read elements from the front, each behind its length. -/
def readElements? : Nat → List UInt8 → Option (List (List UInt8) × List UInt8)
  | 0, bytes => some ([], bytes)
  | count + 1, bytes => do
      let (length, rest) ← readWord? bytes
      guard (0 ≤ length)
      let (element, rest) ← takeFront? length.toNat rest
      let (elements, rest) ← readElements? count rest
      return (element :: elements, rest)

/-- Read an array of elements of a type: it has one dimension, no nulls and
the lower bound one, and nothing stands behind its last element. -/
def readArray? (element : WireType) (bytes : List UInt8) : Option (List (List UInt8)) := do
  let (dimensions, bytes) ← readWord? bytes
  let (nulls, bytes) ← readWord? bytes
  let (oid, bytes) ← takeFront? 4 bytes
  let (count, bytes) ← readWord? bytes
  let (lower, bytes) ← readWord? bytes
  guard (dimensions = 1 ∧ nulls = 0 ∧ ofBigEndian oid = element.oid.toNat ∧ 0 ≤ count ∧ lower = 1)
  let (elements, bytes) ← readElements? count.toNat bytes
  guard (bytes = [])
  return elements

/-! ## Readers of values -/

/-- The kind of a value; a null has none. -/
def Value.carrier? : Value → Option Carrier
  | .null => none
  | .bool _ => some .bool
  | .int _ => some .int
  | .float _ => some .float
  | .text _ => some .text
  | .bytes _ => some .bytes
  | .json _ => some .json
  | .date _ => some .date
  | .timestamp _ => some .timestamp
  | .instant _ => some .instant
  | .uuid _ => some .uuid
  | .textArray _ => some .textArray
  | .intArray _ => some .intArray

namespace Carrier

/-- The kinds that are read back. -/
def readable : List Carrier :=
  [bool, int, text, bytes, uuid, textArray, intArray]

/-- Read the bytes of a value of a kind that was written for a type. -/
def decode? (carrier : Carrier) (type : WireType) (content : List UInt8) : Option Value :=
  match carrier with
  | bool => (readBool? content).map .bool
  | int => (readInt? type content).map .int
  | text => (readText? type content).map .text
  | bytes => some (.bytes content)
  | uuid =>
      if whole : content.length = 16 then some (.uuid ⟨content.toArray, by simpa using whole⟩)
      else none
  | textArray => do
      let element ← type.element?
      let parts ← readArray? element content
      let texts ← parts.mapM (readText? element)
      return .textArray texts
  | intArray => do
      let element ← type.element?
      let parts ← readArray? element content
      let ints ← parts.mapM (readInt? element)
      return .intArray ints
  | float | json | date | timestamp | instant => none

end Carrier

/-! ## Numbers -/

@[simp]
theorem length_bigEndian (width n : Nat) : (bigEndian width n).length = width := by
  induction width generalizing n with
  | zero => rfl
  | succ width ih => simp [bigEndian, ih]

@[simp]
theorem length_signedBytes (width : Nat) (i : Int) : (signedBytes width i).length = width :=
  length_bigEndian width _

theorem ofBigEndian_concat (bytes : List UInt8) (byte : UInt8) :
    ofBigEndian (bytes ++ [byte]) = 256 * ofBigEndian bytes + byte.toNat := by
  simp [ofBigEndian]

/-- Bytes spell a number up to the multiples that their width cannot tell
apart. -/
theorem ofBigEndian_bigEndian (width n : Nat) :
    ofBigEndian (bigEndian width n) = n % 256 ^ width := by
  induction width generalizing n with
  | zero => simp [bigEndian, ofBigEndian, Nat.mod_one]
  | succ width ih =>
      have byte : (UInt8.ofNat (n % 256)).toNat = n % 256 := by
        rw [UInt8.toNat_ofNat', Nat.mod_mod]
      rw [bigEndian, ofBigEndian_concat, ih, byte, pow_succ', Nat.mod_mul, Nat.add_comm]

/-- An integer is in the range of a width. -/
def Fits (width : Nat) (i : Int) : Prop :=
  -2 ^ (8 * width - 1) ≤ i ∧ i < 2 ^ (8 * width - 1)

/-- Half of the numbers of a width are negative. -/
theorem pow_width {width : Nat} (some_byte : 0 < width) :
    256 ^ width = 2 * 2 ^ (8 * width - 1) := by
  calc
    256 ^ width = 2 ^ (8 * width) := by rw [show 256 = 2 ^ 8 from rfl, ← pow_mul]
    _ = 2 ^ (8 * width - 1 + 1) := by rw [show 8 * width - 1 + 1 = 8 * width by omega]
    _ = 2 * 2 ^ (8 * width - 1) := pow_succ' 2 _

theorem readSigned?_signedBytes {width : Nat} (some_byte : 0 < width) {i : Int}
    (fits : Fits width i) : readSigned? width (signedBytes width i) = some i := by
  have positive : (0 : Int) < (256 ^ width : Nat) := by positivity
  have spelled : (ofBigEndian (signedBytes width i) : Int) = i % (256 ^ width : Nat) := by
    have nonnegative := Int.emod_nonneg i positive.ne'
    have below := Int.emod_lt_of_pos i positive
    rw [signedBytes, Nat.pow_eq, ofBigEndian_bigEndian, Nat.mod_eq_of_lt (by omega),
      Int.toNat_of_nonneg nonnegative]
  have halves := pow_width some_byte
  obtain ⟨above, below⟩ := fits
  rw [readSigned?, if_pos (length_signedBytes width i), Nat.pow_eq, spelled, Int.emod_bmod,
    Int.bmod_eq_of_le]
  · rw [halves]
    push_cast
    omega
  · rw [halves]
    push_cast
    omega

/-- Narrowing gives the two's complement of an integer that fits. -/
theorem narrow_eq_ok_iff {width : Nat} {i : Int} {bytes : List UInt8} :
    narrow width i = .ok bytes ↔ Fits width i ∧ bytes = signedBytes width i := by
  have power : ((Nat.pow 2 (8 * width - 1) : Nat) : Int) = 2 ^ (8 * width - 1) := by
    rw [Nat.pow_eq]
    push_cast
    rfl
  rw [narrow, Fits, power]
  by_cases large : 2 ^ (8 * width - 1) ≤ i
  · rw [if_pos large]
    constructor
    · intro impossible
      cases impossible
    · rintro ⟨⟨-, below⟩, -⟩
      omega
  by_cases small : i < -2 ^ (8 * width - 1)
  · rw [if_neg large, if_pos small]
    constructor
    · intro impossible
      cases impossible
    · rintro ⟨⟨above, -⟩, -⟩
      omega
  · rw [if_neg large, if_neg small, Except.ok.injEq]
    constructor
    · rintro rfl
      exact ⟨⟨by omega, by omega⟩, rfl⟩
    · rintro ⟨-, rfl⟩
      rfl

theorem fits_toInt (value : Int64) : Fits 8 value.toInt :=
  ⟨value.le_toInt, value.toInt_lt⟩

/-! ## Types -/

theorem WireType.builtin?_eq_some_iff {type : WireType} {expected : BuiltinType} :
    type.builtin? = some expected ↔ type = .builtin expected := by
  cases type with
  | builtin actual => simp [WireType.builtin?]
  | simple name => simp [WireType.builtin?]
  | array name element => simp [WireType.builtin?]
  | domain name base => simp [WireType.builtin?]
  | enumeration name labels => simp [WireType.builtin?]

theorem WireType.isBuiltin_iff {type : WireType} {expected : BuiltinType} :
    type.isBuiltin expected = true ↔ type = .builtin expected := by
  rw [WireType.isBuiltin, decide_eq_true_iff, WireType.builtin?_eq_some_iff]

/-- Integers of a type have at least one byte and at most eight. -/
theorem WireType.intWidth?_bounds {type : WireType} {width : Nat}
    (wide : type.intWidth? = some width) : 0 < width ∧ width ≤ 8 := by
  unfold WireType.intWidth? at wide
  split at wide <;> cases wide <;> decide

theorem readInt?_signedBytes {type : WireType} {width : Nat}
    (wide : type.intWidth? = some width) {value : Int64} (fits : Fits width value.toInt) :
    readInt? type (signedBytes width value.toInt) = some value := by
  rw [readInt?, wide, Option.bind_some,
    readSigned?_signedBytes (WireType.intWidth?_bounds wide).1 fits, Option.map_some,
    Int64.ofInt_toInt]

/-- Bytes for one built-in type are written for no other. -/
theorem encodeFor_eq_ok_iff {expected : BuiltinType} {carrier : Carrier} {type : WireType}
    {bytes written : List UInt8} :
    encodeFor expected carrier type bytes = .ok written ↔
      type = .builtin expected ∧ bytes = written := by
  rw [encodeFor]
  by_cases taken : type.isBuiltin expected = true
  · rw [if_pos taken, Except.ok.injEq]
    exact (and_iff_right (WireType.isBuiltin_iff.mp taken)).symm
  · rw [if_neg taken]
    constructor
    · intro impossible
      cases impossible
    · rintro ⟨rfl, -⟩
      exact absurd (WireType.isBuiltin_iff.mpr rfl) taken

/-- Apart from the types of floating-point numbers, a type that takes an
integer has a width that it fits. -/
theorem encodeInt_eq_ok {type : WireType} {value : Int64} {bytes : List UInt8}
    (single : type ≠ .builtin .float4) (double : type ≠ .builtin .float8)
    (encoded : encodeInt type value.toInt = .ok bytes) :
    ∃ width, type.intWidth? = some width ∧ Fits width value.toInt ∧
      bytes = signedBytes width value.toInt := by
  unfold encodeInt at encoded
  unfold WireType.intWidth?
  split at encoded
  · next two =>
      rw [two]
      exact ⟨2, rfl, narrow_eq_ok_iff.mp encoded⟩
  · next four =>
      rw [four]
      exact ⟨4, rfl, narrow_eq_ok_iff.mp encoded⟩
  · next eight =>
      rw [eight]
      cases encoded
      exact ⟨8, rfl, fits_toInt value, rfl⟩
  · next float4 => exact absurd (WireType.builtin?_eq_some_iff.mp float4) single
  · next float8 => exact absurd (WireType.builtin?_eq_some_iff.mp float8) double
  · cases encoded

/-! ## Texts -/

/-- The library lists the bytes of an array in their order. -/
theorem ByteArray.toList_eq (bytes : ByteArray) : bytes.toList = bytes.data.toList := by
  have loop : ∀ (start : Nat) (before : List UInt8),
      ByteArray.toList.loop bytes start before =
        before.reverse ++ bytes.data.toList.drop start := by
    intro start before
    fun_induction ByteArray.toList.loop bytes start before with
    | case1 start before inside ih =>
        have listed : start < bytes.data.toList.length := inside
        have byte : bytes.get! start = bytes.data.toList[start] := by
          change bytes.data[start]! = _
          rw [getElem!_pos bytes.data start inside, Array.getElem_toList]
        rw [ih, byte, List.drop_eq_getElem_cons listed]
        simp
    | case2 start before outside =>
        have behind : bytes.data.toList.length ≤ start := Nat.le_of_not_lt outside
        rw [List.drop_eq_nil_of_le behind, List.append_nil]
  exact loop 0 []

theorem fromUTF8?_toUTF8 (text : String) :
    String.fromUTF8? text.toUTF8.toList.toByteArray = some text := by
  have bytes : text.toUTF8.toList.toByteArray = text.toUTF8 := by
    apply ByteArray.ext
    apply Array.toList_inj.mp
    rw [List.toList_data_toByteArray, ByteArray.toList_eq]
  rw [bytes, String.toUTF8_eq_toByteArray, String.fromUTF8?, dif_pos text.isValidUTF8]
  rfl

theorem readText?_textBytes (type : WireType) (text : String) :
    readText? type (textBytes type text) = some text := by
  rw [readText?, textBytes]
  cases isVersionedText type.name with
  | true =>
      rw [if_pos rfl, if_pos rfl, List.dropPrefix?_append_of_beq _ (by simp), Option.bind_some,
        fromUTF8?_toUTF8]
  | false =>
      rw [if_neg (by decide), if_neg (by decide), List.nil_append, Option.bind_some,
        fromUTF8?_toUTF8]

/-! ## Arrays -/

theorem takeFront?_append {count : Nat} {front : List UInt8} (length : front.length = count)
    (rest : List UInt8) : takeFront? count (front ++ rest) = some (front, rest) := by
  subst length
  simp [takeFront?]

/-- A number below the sign is read back from four bytes. -/
theorem readWord?_bigEndian_append {n : Nat} (small : n < 2 ^ 31) (rest : List UInt8) :
    readWord? (bigEndian 4 n ++ rest) = some ((n : Int), rest) := by
  have fits : Fits 4 (n : Int) := by
    constructor
    · omega
    · omega
  have signed : bigEndian 4 n = signedBytes 4 (n : Int) := by
    have unchanged : ((n : Int) % (256 ^ 4 : Nat)).toNat = n := by omega
    rw [signedBytes, Nat.pow_eq, unchanged]
  rw [readWord?, takeFront?_append (length_bigEndian 4 n), signed]
  simp only [Option.bind_eq_bind, Option.bind_some,
    readSigned?_signedBytes (by decide : 0 < 4) fits, Option.pure_def]

theorem readElements?_elementBytes_append {elements : List (List UInt8)}
    (small : ∀ element ∈ elements, element.length < 2 ^ 31) (rest : List UInt8) :
    readElements? elements.length (elementBytes elements ++ rest) = some (elements, rest) := by
  induction elements with
  | nil => rfl
  | cons element later ih =>
      have first := small element List.mem_cons_self
      have others := ih fun next member => small next (List.mem_cons_of_mem _ member)
      rw [List.length_cons, readElements?, elementBytes, List.append_assoc, List.append_assoc,
        readWord?_bigEndian_append first]
      simp only [Option.bind_eq_bind, Option.bind_some, Int.natCast_nonneg, guard_true,
        Int.toNat_natCast, takeFront?_append rfl, others, Option.pure_def]

theorem isLength_iff {n : Nat} : isLength n = true ↔ n < 2 ^ 31 :=
  decide_eq_true_iff

/-- An array is written exactly if its lengths are below the sign. -/
theorem arrayBytes_eq_ok_iff {element : WireType} {elements : List (List UInt8)}
    {bytes : List UInt8} :
    arrayBytes element elements = .ok bytes ↔
      elements.length < 2 ^ 31 ∧ (∀ part ∈ elements, part.length < 2 ^ 31) ∧
        bytes = arrayContent element elements := by
  have told : (isLength elements.length && elements.all fun part => isLength part.length) = true ↔
      elements.length < 2 ^ 31 ∧ ∀ part ∈ elements, part.length < 2 ^ 31 := by
    simp only [Bool.and_eq_true, List.all_eq_true, isLength_iff]
  rw [arrayBytes, ← and_assoc, ← told]
  split
  · next short => simp only [short, true_and, Except.ok.injEq, eq_comm]
  · next long => simp only [long, false_and, reduceCtorEq]

theorem readArray?_arrayBytes {element : WireType} {elements : List (List UInt8)}
    {bytes : List UInt8} (written : arrayBytes element elements = .ok bytes) :
    readArray? element bytes = some elements := by
  obtain ⟨few, small, rfl⟩ := arrayBytes_eq_ok_iff.mp written
  have identified : ofBigEndian (bigEndian 4 element.oid.toNat) = element.oid.toNat := by
    have below : element.oid.toNat < 256 ^ 4 := element.oid.toNat_lt
    rw [ofBigEndian_bigEndian, Nat.mod_eq_of_lt below]
  have read := readElements?_elementBytes_append small []
  rw [List.append_nil] at read
  rw [readArray?]
  simp only [arrayContent, List.append_assoc, readWord?_bigEndian_append few,
    readWord?_bigEndian_append (by decide : 0 < 2 ^ 31),
    readWord?_bigEndian_append (by decide : 1 < 2 ^ 31),
    takeFront?_append (length_bigEndian 4 element.oid.toNat), Option.bind_eq_bind,
    Option.bind_some, Int.toNat_natCast, identified, read]
  simp

/-- What is written element by element is read element by element. -/
theorem mapM_read {α : Type} {write : α → List UInt8} {read : List UInt8 → Option α}
    {list : List α} (back : ∀ a ∈ list, read (write a) = some a) :
    (list.map write).mapM read = some list := by
  induction list with
  | nil => rfl
  | cons a rest ih =>
      have first := back a List.mem_cons_self
      have others := ih fun next member => back next (List.mem_cons_of_mem _ member)
      rw [List.map_cons, List.mapM_cons, first, others]
      rfl

theorem mapM_narrow_eq_ok {width : Nat} {values : List Int64} {elements : List (List UInt8)}
    (narrowed : (values.mapM fun value => narrow width value.toInt) = .ok elements) :
    (∀ value ∈ values, Fits width value.toInt) ∧
      elements = values.map fun value => signedBytes width value.toInt := by
  induction values generalizing elements with
  | nil =>
      cases narrowed
      exact ⟨fun _ absent => (List.not_mem_nil absent).elim, rfl⟩
  | cons value rest ih =>
      rw [List.mapM_cons] at narrowed
      cases first : narrow width value.toInt with
      | error reason =>
          rw [first] at narrowed
          cases narrowed
      | ok bytes =>
          cases others : rest.mapM fun value => narrow width value.toInt with
          | error reason =>
              rw [first, others] at narrowed
              cases narrowed
          | ok parts =>
              rw [first, others] at narrowed
              cases narrowed
              obtain ⟨fits, rfl⟩ := narrow_eq_ok_iff.mp first
              obtain ⟨all, rfl⟩ := ih others
              exact ⟨List.forall_mem_cons.mpr ⟨fits, all⟩, rfl⟩

theorem arrayBytes_of_narrow {width : Nat} {element : WireType} {values : List Int64}
    {bytes : List UInt8}
    (written : (values.mapM fun value => narrow width value.toInt) >>= arrayBytes element =
      .ok bytes) :
    (∀ value ∈ values, Fits width value.toInt) ∧
      arrayBytes element (values.map fun value => signedBytes width value.toInt) =
        .ok bytes := by
  cases parts : values.mapM fun value => narrow width value.toInt with
  | error reason =>
      rw [parts] at written
      cases written
  | ok elements =>
      rw [parts] at written
      obtain ⟨fits, rfl⟩ := mapM_narrow_eq_ok parts
      exact ⟨fits, written⟩

/-- An array of integers is written with the width of its elements, which all
of them fit. -/
theorem encodeInts_eq_ok {type : WireType} {values : List Int64} {bytes : List UInt8}
    (encoded : encodeInts type values = .ok bytes) :
    ∃ element width, type.element? = some element ∧ element.intWidth? = some width ∧
      (∀ value ∈ values, Fits width value.toInt) ∧
      arrayBytes element (values.map fun value => signedBytes width value.toInt) = .ok bytes := by
  unfold encodeInts at encoded
  split at encoded
  · next two =>
      obtain rfl := WireType.builtin?_eq_some_iff.mp two
      exact ⟨.builtin .int2, 2, rfl, rfl, arrayBytes_of_narrow encoded⟩
  · next four =>
      obtain rfl := WireType.builtin?_eq_some_iff.mp four
      exact ⟨.builtin .int4, 4, rfl, rfl, arrayBytes_of_narrow encoded⟩
  · split at encoded
    · next element listed =>
        split at encoded
        · next wide =>
            obtain rfl := WireType.isBuiltin_iff.mp wide
            exact ⟨.builtin .int8, 8, listed, rfl, fun value _ => fits_toInt value, encoded⟩
        · cases encoded
    · cases encoded

theorem encodeTexts_eq_ok {type : WireType} {values : List String} {bytes : List UInt8}
    (encoded : encodeTexts type values = .ok bytes) :
    ∃ element, type.element? = some element ∧
      arrayBytes element (values.map (textBytes element)) = .ok bytes := by
  unfold encodeTexts at encoded
  split at encoded
  · next element listed =>
      split at encoded
      · exact ⟨element, listed, encoded⟩
      · cases encoded
  · cases encoded

/-! ## Values -/

/-- A success under a tag is a success of what is tagged. -/
private theorem some_map_eq_ok_iff {written : Except EncodeError (List UInt8)}
    {bytes : List UInt8} : some <$> written = .ok (some bytes) ↔ written = .ok bytes := by
  cases written with
  | error reason => simp [Functor.map, Except.map]
  | ok content => simp [Functor.map, Except.map]

theorem Carrier.decode?_textArray {type element : WireType} {values : List String}
    {bytes : List UInt8} (listed : type.element? = some element)
    (written : arrayBytes element (values.map (textBytes element)) = .ok bytes) :
    Carrier.textArray.decode? type bytes = some (.textArray values) := by
  have texts : ∀ text ∈ values, readText? element (textBytes element text) = some text :=
    fun text _ => readText?_textBytes element text
  simp only [Carrier.decode?, listed, readArray?_arrayBytes written, mapM_read texts,
    Option.bind_eq_bind, Option.bind_some, Option.pure_def]

theorem Carrier.decode?_intArray {type element : WireType} {values : List Int64} {width : Nat}
    {bytes : List UInt8} (listed : type.element? = some element)
    (wide : element.intWidth? = some width) (fits : ∀ value ∈ values, Fits width value.toInt)
    (written : arrayBytes element (values.map fun value => signedBytes width value.toInt) =
      .ok bytes) :
    Carrier.intArray.decode? type bytes = some (.intArray values) := by
  have ints : ∀ value ∈ values, readInt? element (signedBytes width value.toInt) = some value :=
    fun value member => readInt?_signedBytes wide (fits value member)
  simp only [Carrier.decode?, listed, readArray?_arrayBytes written, mapM_read ints,
    Option.bind_eq_bind, Option.bind_some, Option.pure_def]

/-- The reader of a kind of value takes back what was written for a type. -/
theorem Carrier.decode?_encode {carrier : Carrier} {value : Value} {type : WireType}
    {bytes : List UInt8} (kind : value.carrier? = some carrier)
    (readable : carrier ∈ Carrier.readable)
    (single : type ≠ .builtin .float4) (double : type ≠ .builtin .float8)
    (encoded : value.encode type = .ok (some bytes)) :
    carrier.decode? type bytes = some value := by
  cases value with
  | null => cases kind
  | float value => cases kind; exact absurd readable (by decide)
  | json value => cases kind; exact absurd readable (by decide)
  | date value => cases kind; exact absurd readable (by decide)
  | timestamp value => cases kind; exact absurd readable (by decide)
  | instant value => cases kind; exact absurd readable (by decide)
  | bool value =>
      cases kind
      obtain ⟨-, rfl⟩ := encodeFor_eq_ok_iff.mp (some_map_eq_ok_iff.mp encoded)
      cases value with
      | false => rfl
      | true => rfl
  | int value =>
      cases kind
      obtain ⟨width, wide, fits, rfl⟩ :=
        encodeInt_eq_ok single double (some_map_eq_ok_iff.mp encoded)
      rw [Carrier.decode?, readInt?_signedBytes wide fits]
      rfl
  | text value =>
      cases kind
      rw [Value.encode] at encoded
      split at encoded
      · cases encoded
        rw [Carrier.decode?, readText?_textBytes]
        rfl
      · cases encoded
  | bytes value =>
      cases kind
      obtain ⟨-, rfl⟩ := encodeFor_eq_ok_iff.mp (some_map_eq_ok_iff.mp encoded)
      rfl
  | uuid value =>
      cases kind
      obtain ⟨-, rfl⟩ := encodeFor_eq_ok_iff.mp (some_map_eq_ok_iff.mp encoded)
      rw [Carrier.decode?, dif_pos value.length_toList]
      exact congrArg (some ∘ Value.uuid) (Vector.toArray_inj.mp Array.toArray_toList)
  | textArray values =>
      cases kind
      obtain ⟨element, listed, written⟩ := encodeTexts_eq_ok (some_map_eq_ok_iff.mp encoded)
      exact Carrier.decode?_textArray listed written
  | intArray values =>
      cases kind
      obtain ⟨element, width, listed, wide, fits, written⟩ :=
        encodeInts_eq_ok (some_map_eq_ok_iff.mp encoded)
      exact Carrier.decode?_intArray listed wide fits written

/-- What is written of a truth value, an integer, a text, bytes, an identifier
or an array for a type is read back as that value, and all of it is read.  So
no other value of the same kind is written as the same bytes for that type. -/
theorem Value.encode_invertible {carrier : Carrier} {value : Value} {type : WireType}
    {bytes : List UInt8} (kind : value.carrier? = some carrier)
    (readable : carrier ∈ Carrier.readable)
    (single : type ≠ .builtin .float4) (double : type ≠ .builtin .float8)
    (encoded : value.encode type = .ok (some bytes)) :
    carrier.decode? type bytes = some value ∧
      ∀ other : Value, other.carrier? = some carrier →
        other.encode type = .ok (some bytes) → other = value := by
  have back := Carrier.decode?_encode kind readable single double encoded
  constructor
  · exact back
  · intro other alike written
    have again := Carrier.decode?_encode alike readable single double written
    exact Option.some.inj (again.symm.trans back)

/-- Two integers for a defined array type, one of them negative. -/
theorem Value.encode_invertible_sample :
    let type := WireType.array ⟨"app", "counts", 4294967295⟩ (.builtin .int8)
    let bytes : List UInt8 := [0, 0, 0, 1, 0, 0, 0, 0, 0, 0, 0, 20, 0, 0, 0, 2, 0, 0, 0, 1,
      0, 0, 0, 8, 255, 255, 255, 255, 255, 255, 255, 254, 0, 0, 0, 8, 0, 0, 0, 0, 0, 0, 1, 0]
    (Value.intArray [-2, 256]).encode type = .ok (some bytes) ∧
      Carrier.intArray.decode? type bytes = some (.intArray [-2, 256]) ∧
      ∀ other : Value, other.carrier? = some .intArray →
        other.encode type = .ok (some bytes) → other = .intArray [-2, 256] := by
  intro type bytes
  have encoded : (Value.intArray [-2, 256]).encode type = .ok (some bytes) :=
    rfl
  exact ⟨encoded, Value.encode_invertible rfl (by decide) nofun nofun encoded⟩

end ParamSql
