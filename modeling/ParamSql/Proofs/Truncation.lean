import Mathlib.Data.Nat.Find
import ParamSql.Diagnostics

/-!
# Where texts are cut

A text that is too long is cut where one of its characters starts.  The front
that is kept is taken character by character, as long as the next one fits; it
can also be found from the limit backward, byte by byte, up to the first place
that is not inside a character.  Both ways give the same front, so the search
always ends where the bytes can be cut.

The main statement is that this front is the longest one that fits, with fewer
than four bytes of the limit left, and what a log hook shows of a statement.
-/

namespace ParamSql

namespace Text

/-! ## Searching backward -/

/-- The last place up to a limit where a character of a text starts or the text
ends. -/
def boundaryUpTo (text : String) (limit : Nat) : Nat :=
  Nat.findGreatest (fun index => (String.Pos.Raw.mk index).IsValid text) limit

/-- The first bytes of a text, as long as no character is divided. -/
def front? (text : String) (size : Nat) : Option String :=
  if whole : (String.Pos.Raw.mk size).IsValid text then
    some ⟨text.toByteArray.extract 0 size, whole.isValidUTF8_extract_zero⟩
  else none

theorem isValid_iff_exists_append {text : String} {index : Nat} :
    (String.Pos.Raw.mk index).IsValid text ↔
      ∃ front rest, text = front ++ rest ∧ front.utf8ByteSize = index := by
  rw [String.Pos.Raw.isValid_iff_exists_append]
  constructor
  · rintro ⟨front, rest, joined, place⟩
    exact ⟨front, rest, joined, (congrArg String.Pos.Raw.byteIdx place).symm⟩
  · rintro ⟨front, rest, joined, rfl⟩
    exact ⟨front, rest, joined, rfl⟩

theorem front?_append (front rest : String) :
    front? (front ++ rest) front.utf8ByteSize = some front := by
  have whole := isValid_iff_exists_append.mpr ⟨front, rest, rfl, rfl⟩
  rw [front?, dif_pos whole, Option.some.injEq, ← String.toByteArray_inj]
  simp [ByteArray.extract_append_eq_left]

theorem boundaryUpTo_le (text : String) (limit : Nat) : boundaryUpTo text limit ≤ limit :=
  Nat.findGreatest_le limit

/-- The search ends at a place where no character is divided, at the latest in
front of the text. -/
theorem isValid_boundaryUpTo (text : String) (limit : Nat) :
    (String.Pos.Raw.mk (boundaryUpTo text limit)).IsValid text :=
  Nat.findGreatest_spec (P := fun index => (String.Pos.Raw.mk index).IsValid text)
    (Nat.zero_le limit) String.Pos.Raw.isValid_zero

theorem le_boundaryUpTo {text : String} {limit index : Nat} (within : index ≤ limit)
    (whole : (String.Pos.Raw.mk index).IsValid text) : index ≤ boundaryUpTo text limit :=
  Nat.le_findGreatest within whole

/-! ## Taking what fits -/

theorem fitting_prefix (limit : Nat) (chars : List Char) : fitting limit chars <+: chars := by
  induction chars generalizing limit with
  | nil => exact List.prefix_refl []
  | cons c rest ih =>
      rw [fitting]
      split
      · exact List.cons_prefix_cons.mpr ⟨rfl, ih _⟩
      · exact List.nil_prefix

theorem size_fitting_le (limit : Nat) (chars : List Char) :
    (String.ofList (fitting limit chars)).utf8ByteSize ≤ limit := by
  induction chars generalizing limit with
  | nil => exact Nat.zero_le limit
  | cons c rest ih =>
      rw [fitting]
      split
      · next fits =>
          have later := ih (limit - c.utf8Size)
          rw [String.ofList_cons, String.utf8ByteSize_append, String.utf8ByteSize_singleton]
          omega
      · exact Nat.zero_le limit

/-- Every front that fits is taken. -/
theorem prefix_fitting {limit : Nat} {front chars : List Char} (whole : front <+: chars)
    (fits : (String.ofList front).utf8ByteSize ≤ limit) : front <+: fitting limit chars := by
  induction chars generalizing limit front with
  | nil => exact whole
  | cons c rest ih =>
      cases front with
      | nil => exact List.nil_prefix
      | cons d front =>
          obtain ⟨rfl, later⟩ := List.cons_prefix_cons.mp whole
          rw [String.ofList_cons, String.utf8ByteSize_append, String.utf8ByteSize_singleton] at fits
          rw [fitting, if_pos (by omega)]
          exact List.cons_prefix_cons.mpr ⟨rfl, ih later (by omega)⟩

/-! ## The cut -/

theorem exists_cutToBytes_append (text : String) (limit : Nat) :
    ∃ rest, text = cutToBytes text limit ++ rest := by
  obtain ⟨rest, joined⟩ := fitting_prefix limit text.toList
  refine ⟨String.ofList rest, ?_⟩
  rw [cutToBytes, ← String.ofList_append, joined, String.ofList_toList]

theorem size_cutToBytes_le (text : String) (limit : Nat) :
    (cutToBytes text limit).utf8ByteSize ≤ limit :=
  size_fitting_le limit text.toList

/-- A front that fits is a front of the cut. -/
theorem exists_append_eq_cutToBytes {front : String} (rest : String) {limit : Nat}
    (fits : front.utf8ByteSize ≤ limit) :
    ∃ more, cutToBytes (front ++ rest) limit = front ++ more := by
  have whole : front.toList <+: (front ++ rest).toList := by
    rw [String.toList_append]
    exact List.prefix_append _ _
  rw [← front.ofList_toList] at fits
  obtain ⟨more, joined⟩ := prefix_fitting whole fits
  refine ⟨String.ofList more, ?_⟩
  rw [cutToBytes, ← joined, String.ofList_append, String.ofList_toList]

/-- A character that follows the cut does not fit behind it. -/
theorem limit_lt_of_eq_cutToBytes_append {text rest : String} {limit : Nat} {c : Char}
    (joined : text = cutToBytes text limit ++ (String.singleton c ++ rest)) :
    limit < (cutToBytes text limit).utf8ByteSize + c.utf8Size := by
  by_contra fits
  have within : (cutToBytes text limit ++ String.singleton c).utf8ByteSize ≤ limit := by
    rw [String.utf8ByteSize_append, String.utf8ByteSize_singleton]
    omega
  obtain ⟨more, longer⟩ := exists_append_eq_cutToBytes rest within
  rw [String.append_assoc, ← joined] at longer
  have sizes := congrArg String.utf8ByteSize longer
  have positive := c.utf8Size_pos
  simp only [String.utf8ByteSize_append, String.utf8ByteSize_singleton] at sizes
  omega

theorem cutToBytes_of_le {text : String} {limit : Nat} (fits : text.utf8ByteSize ≤ limit) :
    cutToBytes text limit = text := by
  obtain ⟨rest, joined⟩ := exists_cutToBytes_append text limit
  obtain ⟨more, longer⟩ := exists_append_eq_cutToBytes "" fits
  rw [String.append_empty] at longer
  have sizes := congrArg String.utf8ByteSize joined
  rw [longer, String.utf8ByteSize_append, String.utf8ByteSize_append] at sizes
  obtain rfl : more = "" := String.utf8ByteSize_eq_zero_iff.mp (by omega)
  rw [longer, String.append_empty]

/-- The search backward ends behind the last character that is taken. -/
theorem boundaryUpTo_eq (text : String) (limit : Nat) :
    boundaryUpTo text limit = (cutToBytes text limit).utf8ByteSize := by
  apply Nat.le_antisymm
  · obtain ⟨front, rest, rfl, size⟩ :=
      isValid_iff_exists_append.mp (isValid_boundaryUpTo text limit)
    have fits : front.utf8ByteSize ≤ limit := size ▸ boundaryUpTo_le (front ++ rest) limit
    obtain ⟨more, longer⟩ := exists_append_eq_cutToBytes rest fits
    rw [← size, longer, String.utf8ByteSize_append]
    exact Nat.le_add_right _ _
  · obtain ⟨rest, joined⟩ := exists_cutToBytes_append text limit
    exact le_boundaryUpTo (size_cutToBytes_le text limit)
      (isValid_iff_exists_append.mpr ⟨_, rest, joined, rfl⟩)

/-- A front of a text that fits a number of bytes, and no longer one does. -/
structure LongestFront (text : String) (limit : Nat) (cut : String) : Prop where
  isFront : ∃ rest, text = cut ++ rest
  fits : cut.utf8ByteSize ≤ limit
  longest : ∀ front rest, text = front ++ rest → front.utf8ByteSize ≤ limit →
    front.utf8ByteSize ≤ cut.utf8ByteSize

theorem longestFront_cutToBytes (text : String) (limit : Nat) :
    LongestFront text limit (cutToBytes text limit) where
  isFront := exists_cutToBytes_append text limit
  fits := size_cutToBytes_le text limit
  longest := by
    rintro front rest rfl fits
    obtain ⟨more, longer⟩ := exists_append_eq_cutToBytes rest fits
    rw [longer, String.utf8ByteSize_append]
    exact Nat.le_add_right _ _

/-- What is left of the limit is less than the longest character takes. -/
theorem limit_lt_size_cutToBytes {text : String} {limit : Nat}
    (long : limit < text.utf8ByteSize) : limit < (cutToBytes text limit).utf8ByteSize + 4 := by
  obtain ⟨rest, joined⟩ := exists_cutToBytes_append text limit
  cases characters : rest.toList with
  | nil =>
      obtain rfl := String.toList_eq_nil_iff.mp characters
      have fits := size_cutToBytes_le text limit
      rw [String.append_empty] at joined
      rw [← joined] at fits
      omega
  | cons c later =>
      obtain rfl : rest = String.singleton c ++ String.ofList later := by
        rw [← String.ofList_cons, ← characters, String.ofList_toList]
      have unfit := limit_lt_of_eq_cutToBytes_append joined
      have short := c.utf8Size_le_four
      omega

end Text

open Text

/-- A text is cut to its longest front that fits the limit.  That is the whole
text if it fits; else fewer than four bytes of the limit are left over.  The
search from the limit backward ends where no character is divided, and the
bytes up to there are this front.  A log hook shows the whole text if it has no
limit or the text fits it, and else this front with dots behind it. -/
theorem LogHook.excerpt_longest :
    (∀ text limit,
      LongestFront text limit (cutToBytes text limit) ∧
        (text.utf8ByteSize ≤ limit → cutToBytes text limit = text) ∧
        (limit < text.utf8ByteSize → limit < (cutToBytes text limit).utf8ByteSize + 4) ∧
        (String.Pos.Raw.mk (boundaryUpTo text limit)).IsValid text ∧
        front? text (boundaryUpTo text limit) = some (cutToBytes text limit)) ∧
    ∀ (hook : LogHook) text,
      (hook.maxBytes = none → hook.excerpt text = text) ∧
        ∀ limit, hook.maxBytes = some limit →
          (text.utf8ByteSize ≤ limit → hook.excerpt text = text) ∧
            (limit < text.utf8ByteSize → hook.excerpt text = cutToBytes text limit ++ "...") := by
  constructor
  · intro text limit
    refine ⟨longestFront_cutToBytes text limit, cutToBytes_of_le, limit_lt_size_cutToBytes,
      isValid_boundaryUpTo text limit, ?_⟩
    obtain ⟨rest, joined⟩ := exists_cutToBytes_append text limit
    have front := front?_append (cutToBytes text limit) rest
    rwa [← joined, ← boundaryUpTo_eq] at front
  · intro hook text
    constructor
    · intro unlimited
      rw [LogHook.excerpt, unlimited]
    · intro limit limited
      simp only [LogHook.excerpt, limited]
      exact ⟨fun fits => if_neg (Nat.not_lt.mpr fits), fun long => if_pos long⟩

/-- Three bytes of the limit are left over in front of a character of four;
with the last byte of that character the text fits. -/
theorem LogHook.excerpt_longest_sample :
    9 < "aé€😀".utf8ByteSize ∧ boundaryUpTo "aé€😀" 9 = 6 ∧
      front? "aé€😀" 6 = some "aé€" ∧
      LogHook.excerpt { maxBytes := some 9 } "aé€😀" = "aé€..." ∧
      LogHook.excerpt { maxBytes := some 10 } "aé€😀" = "aé€😀" ∧
      LogHook.excerpt { maxBytes := none } "aé€😀" = "aé€😀" := by
  have long : 9 < "aé€😀".utf8ByteSize := by decide
  have cut : cutToBytes "aé€😀" 9 = "aé€" := by decide
  have search : boundaryUpTo "aé€😀" 9 = 6 := by
    rw [boundaryUpTo_eq, cut]
    rfl
  obtain ⟨texts, hooks⟩ := LogHook.excerpt_longest
  have front := (texts "aé€😀" 9).2.2.2.2
  have shown := ((hooks { maxBytes := some 9 } "aé€😀").2 9 rfl).2 long
  rw [search, cut] at front
  rw [cut] at shown
  exact ⟨long, search, front, shown,
    ((hooks { maxBytes := some 10 } "aé€😀").2 10 rfl).1 (by decide),
    (hooks { maxBytes := none } "aé€😀").1 rfl⟩

end ParamSql
