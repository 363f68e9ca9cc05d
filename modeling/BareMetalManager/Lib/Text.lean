import BareMetalManager.Lib.Checked

/-!
# Text and byte strings

A Rust string is a sequence of characters, but its length and its slices are in bytes of the UTF-8
encoding. Here a text is its list of characters, `utf8Len` is its length, and slicing panics at an
offset that lies past the end or inside a character. Byte strings have the checked accesses of
slices, and 16-bit numbers in network order.
-/

/-- A string as its characters. -/
abbrev Text := List Char

namespace Text

open List

/-- The length of the UTF-8 encoding in bytes. -/
def utf8Len (text : Text) : Nat := (text.map Char.utf8Size).sum

/-- Split at a byte offset that lies between two characters. -/
def splitAtByte : Text → Nat → Option (Text × Text)
  | text, 0 => some ([], text)
  | [], _ + 1 => none
  | char :: text, offset + 1 =>
    if char.utf8Size ≤ offset + 1 then
      (splitAtByte text (offset + 1 - char.utf8Size)).map fun (before, after) =>
        (char :: before, after)
    else none

variable {text before after : Text} {offset : Nat}

theorem utf8Len_append (text other : Text) :
    (text ++ other).utf8Len = text.utf8Len + other.utf8Len := by
  simp [utf8Len]

theorem utf8Len_of_ascii (ascii : ∀ char ∈ text, char.utf8Size = 1) :
    text.utf8Len = text.length := by
  rw [utf8Len, map_congr_left ascii, map_const', sum_replicate_nat, mul_one]

/-- A text is split exactly between two characters. -/
theorem splitAtByte_eq_some :
    text.splitAtByte offset = some (before, after) ↔
      before ++ after = text ∧ before.utf8Len = offset := by
  have pos (char : Char) := char.utf8Size_pos
  fun_induction splitAtByte text offset generalizing before with
  | case1 text =>
    cases before with
    | nil => simp [utf8Len, eq_comm]
    | cons char before => simp [utf8Len, (pos char).ne']
  | case2 offset => cases before <;> simp [utf8Len]
  | case3 char text offset fits ih =>
    cases before with
    | nil => simp [utf8Len]
    | cons first before =>
      simp [ih, utf8Len]
      grind
  | case4 char text offset wide =>
    cases before with
    | nil => simp [utf8Len]
    | cons first before =>
      simp [utf8Len]
      grind

/-- The two slices at a byte offset. -/
def sliceAt (text : Text) (offset : Nat) : Checked (Text × Text) :=
  match text.splitAtByte offset with
  | some parts => .ok parts
  | none => .error .outOfBounds

theorem sliceAt_eq_ok :
    text.sliceAt offset = .ok (before, after) ↔
      before ++ after = text ∧ before.utf8Len = offset := by
  rw [sliceAt, ← splitAtByte_eq_some]
  cases text.splitAtByte offset <;> simp

/-- The slice between two byte offsets. -/
def slice (text : Text) (start stop : Nat) : Checked Text :=
  if start ≤ stop then do
    let (_, rest) ← text.sliceAt start
    return (← rest.sliceAt (stop - start)).1
  else .error .outOfBounds

theorem slice_append (before segment after : Text) :
    (before ++ segment ++ after).slice before.utf8Len (before ++ segment).utf8Len =
      .ok segment := by
  have first : (before ++ segment ++ after).sliceAt before.utf8Len =
    .ok (before, segment ++ after) :=
    sliceAt_eq_ok.mpr ⟨(append_assoc ..).symm, rfl⟩
  have second : (segment ++ after).sliceAt segment.utf8Len = .ok (segment, after) :=
    sliceAt_eq_ok.mpr ⟨rfl, rfl⟩
  rw [slice, utf8Len_append, if_pos le_self_add, first, Nat.add_sub_cancel_left]
  simp only [bind, Except.bind, second]
  rfl

/-- The rest of a text after a given beginning. -/
def stripPrefix : Text → Text → Option Text
  | text, [] => some text
  | [], _ :: _ => none
  | char :: text, first :: beginning =>
    if char = first then stripPrefix text beginning else none

/-- The characters with the Unicode property `White_Space`. -/
def isWhiteSpace (char : Char) : Bool :=
  let code := char.toNat
  (0x9 ≤ code && code ≤ 0xd) || code == 0x20 || code == 0x85 || code == 0xa0 || code == 0x1680 ||
    (0x2000 ≤ code && code ≤ 0x200a) || code == 0x2028 || code == 0x2029 || code == 0x202f ||
    code == 0x205f || code == 0x3000

/-- `str::trim`: the text without the characters with a property at its ends. -/
def trimMatches (matching : Char → Bool) (text : Text) : Text :=
  ((text.dropWhile matching).reverse.dropWhile matching).reverse

/-- A text that neither begins nor ends with such a character is left as it is. -/
theorem trimMatches_eq_self {matching : Char → Bool} {first last : Char}
    (starts : text.head? = some first) (ends : text.getLast? = some last)
    (firstKept : matching first = false) (lastKept : matching last = false) :
    text.trimMatches matching = text := by
  have kept : ∀ {char : Char} {text : Text}, text.head? = some char → matching char = false →
      text.dropWhile matching = text := by
    intro char text starts charKept
    cases text with
    | nil => rfl
    | cons head text =>
      cases starts
      exact dropWhile_cons_of_neg (by simp [charKept])
  have reversed : text.reverse.head? = some last := by
    rw [head?_reverse, ends]
  rw [trimMatches, kept starts firstKept, kept reversed lastKept, reverse_reverse]

/-- The decimal digits of a number. -/
def decimal (number : Nat) : Text := Nat.toDigits 10 number

/-- The decimal digits of a signed integer. -/
def signedDecimal (number : Int) : Text :=
  if number < 0 then '-' :: decimal number.natAbs else decimal number.natAbs

variable (number : Nat)

theorem signedDecimal_natCast : signedDecimal number = decimal number := by
  rw [signedDecimal, if_neg (by omega), Int.natAbs_natCast]

theorem isDigit_of_mem_decimal {number : Nat} {char : Char} (mem : char ∈ decimal number) :
    char.isDigit = true :=
  Nat.isDigit_of_mem_toDigits (by decide) (by decide) mem

theorem decimal_ne_nil : decimal number ≠ [] := Nat.toDigits_ne_nil

/-- The text after an optional `+`. -/
def withoutPlus : Text → Text
  | '+' :: digits => digits
  | digits => digits

theorem withoutPlus_decimal : withoutPlus (decimal number) = decimal number := by
  rw [withoutPlus.eq_2]
  intro digits equal
  have plus : ('+' : Char).isDigit = true :=
    isDigit_of_mem_decimal (equal ▸ mem_cons_self)
  exact absurd plus (by decide)

/-- `str::parse` of an unsigned integer of `w` bits: an optional `+` and decimal
digits, at least one, whose value fits. -/
def parseUnsigned (w : Nat) (text : Text) : Option Nat :=
  let digits := withoutPlus text
  let value := Nat.ofDigitChars 10 digits 0
  if digits ≠ [] ∧ digits.all Char.isDigit = true ∧ value < 2 ^ w then some value else none

/-- The text of the `ParseIntError` for a text that is not parsed. The digits are read from the
left, so a number that is too large is reported before what follows it. -/
def parseIntError (w : Nat) (text : Text) : Text :=
  let digits := (withoutPlus text).takeWhile Char.isDigit
  if text = [] then "cannot parse integer from empty string".toList
  else if Nat.ofDigitChars 10 digits 0 < 2 ^ w then "invalid digit found in string".toList
  else "number too large to fit in target type".toList

/-- The digits of a number that fits read back as that number. -/
theorem parseUnsigned_decimal {w number : Nat} (fits : number < 2 ^ w) :
    parseUnsigned w (decimal number) = some number := by
  have value : Nat.ofDigitChars 10 (decimal number) 0 = number :=
    Nat.ofDigitChars_toDigits (by decide) (by decide)
  have digits : (decimal number).all Char.isDigit = true :=
    all_eq_true.mpr fun char mem => isDigit_of_mem_decimal mem
  rw [parseUnsigned, withoutPlus_decimal, value]
  exact if_pos ⟨decimal_ne_nil number, digits, fits⟩

/-- The parts before and after the first occurrence of a character. -/
def splitOnce (separator : Char) : Text → Option (Text × Text)
  | [] => none
  | char :: text =>
    if char = separator then some ([], text)
    else (splitOnce separator text).map fun (before, after) => (char :: before, after)

/-- Equality up to the case of ASCII letters. -/
def eqIgnoreAsciiCase (left right : Text) : Bool :=
  left.map Char.toLower == right.map Char.toLower

end Text

abbrev Bytes := List UInt8

namespace Bytes

/-- The byte at a position; it panics behind the end. -/
def index (bytes : Bytes) (position : Nat) : Checked UInt8 :=
  match bytes[position]? with
  | some byte => .ok byte
  | none => .error .outOfBounds

variable {bytes : Bytes}

theorem index_eq_ok {position : Nat} (inside : position < bytes.length) :
    bytes.index position = .ok bytes[position] := by
  rw [index, List.getElem?_eq_getElem inside]

/-- The bytes of a half-open range; it panics behind the end. -/
def slice (bytes : Bytes) (start stop : Nat) : Checked Bytes :=
  if start ≤ stop ∧ stop ≤ bytes.length then .ok ((bytes.take stop).drop start)
  else .error .outOfBounds

theorem slice_eq_ok {start stop : Nat} (ordered : start ≤ stop) (inside : stop ≤ bytes.length) :
    bytes.slice start stop = .ok ((bytes.take stop).drop start) :=
  if_pos ⟨ordered, inside⟩

def getFrom (bytes : Bytes) (start : Nat) : Option Bytes :=
  if start ≤ bytes.length then some (bytes.drop start) else none

theorem getFrom_eq_some {rest : Bytes} {start : Nat} :
    bytes.getFrom start = some rest ↔ start ≤ bytes.length ∧ bytes.drop start = rest := by
  unfold getFrom
  split
  next inside => simp [inside]
  next outside => simp [outside]

variable (high low : UInt8)

/-- `u16::from_be_bytes`. -/
def u16FromBe : Nat := high.toNat * 256 + low.toNat

/-- `u16::to_be_bytes`. -/
def u16ToBe (value : Nat) : Bytes := [UInt8.ofNat (value / 256), UInt8.ofNat value]

theorem u16FromBe_lt : u16FromBe high low < 2 ^ 16 := by
  have := high.toNat_lt
  have := low.toNat_lt
  unfold u16FromBe
  omega

theorem u16ToBe_u16FromBe : u16ToBe (u16FromBe high low) = [high, low] := by
  have lowLt := low.toNat_lt
  have quotient : (high.toNat * 256 + low.toNat) / 256 = high.toNat := by omega
  have lowEq : UInt8.ofNat (high.toNat * 256 + low.toNat) = low := by
    refine UInt8.toNat_inj.mp ?_
    rw [UInt8.toNat_ofNat']
    omega
  rw [u16ToBe, u16FromBe, quotient, UInt8.ofNat_toNat, lowEq]

end Bytes
