import CalcFields.Digest.Blake3
import CalcFields.Engine.Selection
import Mathlib.Algebra.Group.Nat.Defs
import Mathlib.Data.List.Basic

/-!
The bytes of a text and of a place determine it, and the hexadecimal text of bytes determines them.
-/

namespace CalcFields

/-- Small hexadecimal digits are distinct. -/
theorem digitChar_inj : ∀ m < 16, ∀ n < 16, Nat.digitChar m = Nat.digitChar n → m = n := by
  decide

/-- Bytes are told from their hexadecimal text. -/
theorem hexText_injective : Function.Injective hexText := by
  intro first second same
  rw [hexText, hexText, String.ofList_inj] at same
  induction first generalizing second with
  | nil =>
    cases second with
    | nil => rfl
    | cons => cases same
  | cons byte rest ih =>
    cases second with
    | nil => cases same
    | cons other others =>
      -- Each byte has its own two digits.
      simp only [List.flatMap_cons, List.cons_append, List.nil_append, List.cons.injEq] at same
      obtain ⟨high, low, later⟩ := same
      have below := byte.toNat_lt
      have otherBelow := other.toNat_lt
      have high := digitChar_inj _ (by omega) _ (by omega) high
      have low := digitChar_inj _ (by omega) _ (by omega) low
      rw [UInt8.toNat_inj.1 (show byte.toNat = other.toNat by omega), ih later]

/-- The bytes of an array in a row. -/
theorem toList_byteArray (bytes : ByteArray) : bytes.toList = bytes.data.toList := by
  -- The loop gathers the bytes from the front, the last one first.
  have gathers (i : Nat) (gathered : List UInt8) : ByteArray.toList.loop bytes i gathered =
      gathered.reverse ++ bytes.data.toList.drop i := by
    fun_induction ByteArray.toList.loop bytes i gathered with
    | case1 i gathered within ih =>
      have inside : i < bytes.data.size := within
      have next : bytes.get! i = bytes.data[i] := getElem!_pos bytes.data i inside
      have listed : i < bytes.data.toList.length := by rwa [Array.length_toList]
      rw [ih, List.drop_eq_getElem_cons listed, next, Array.getElem_toList, List.reverse_cons,
        List.append_assoc, List.singleton_append]
    | case2 i gathered beyond =>
      have past : bytes.data.toList.length ≤ i := by
        rw [Array.length_toList]
        exact Nat.le_of_not_lt beyond
      rw [List.drop_eq_nil_of_le past, List.append_nil]
  exact gathers 0 []

/-- The bytes of a text are those of its characters. -/
theorem bytesOfText_eq (text : String) :
    bytesOfText text = text.toList.flatMap String.utf8EncodeChar := by
  rw [bytesOfText, toList_byteArray, String.toUTF8, ← String.utf8Encode_toList, List.utf8Encode,
    List.toList_data_toByteArray]

/-- A text is told from its bytes. -/
theorem bytesOfText_injective : Function.Injective bytesOfText := by
  -- Equal bytes spell equal characters.
  intro text other same
  rw [bytesOfText, bytesOfText, toList_byteArray, toList_byteArray, Array.toList_inj] at same
  exact String.toByteArray_inj.1 (ByteArray.ext same)

/-- A byte of a character is its code or marks a longer code. -/
theorem toNat_of_mem_utf8EncodeChar {c : Char} {byte : UInt8}
    (member : byte ∈ String.utf8EncodeChar c) :
    byte.toNat = c.toNat ∧ byte.toNat < 128 ∨ 128 ≤ byte.toNat ∧ byte.toNat < 248 := by
  rw [String.utf8EncodeChar] at member
  -- A code takes one byte or two, three or four, each with a mark on it.
  split at member
  · have small : c.toNat ≤ 127 := ‹_›
    rw [List.mem_singleton.1 member, UInt8.toNat_ofNat', Nat.mod_eq_of_lt (by omega)]
    exact .inl ⟨rfl, Nat.lt_succ_of_le small⟩
  · right
    split at member
    · simp only [List.mem_cons, List.not_mem_nil, or_false] at member
      obtain rfl | rfl := member <;> rw [UInt8.toNat_ofNat'] <;> omega
    · split at member
      · simp only [List.mem_cons, List.not_mem_nil, or_false] at member
        obtain rfl | rfl | rfl := member <;> rw [UInt8.toNat_ofNat'] <;> omega
      · simp only [List.mem_cons, List.not_mem_nil, or_false] at member
        obtain rfl | rfl | rfl | rfl := member <;> rw [UInt8.toNat_ofNat'] <;> omega

/-- The greatest byte stands in no text. -/
theorem greatest_not_mem_bytesOfText (text : String) : 255 ∉ bytesOfText text := by
  -- No byte of a character has all its bits set.
  intro member
  rw [bytesOfText_eq, List.mem_flatMap] at member
  obtain ⟨c, -, inside⟩ := member
  obtain same | ⟨-, below⟩ := toNat_of_mem_utf8EncodeChar inside
  · exact absurd same.2 (by decide)
  · exact absurd below (by decide)

/-- A zero byte stands only in texts that have the character zero. -/
theorem zero_not_mem_bytesOfText {text : String} (plain : '\x00' ∉ text.toList) :
    0 ∉ bytesOfText text := by
  intro member
  rw [bytesOfText_eq, List.mem_flatMap] at member
  obtain ⟨c, listed, inside⟩ := member
  obtain same | ⟨above, -⟩ := toNat_of_mem_utf8EncodeChar inside
  · -- A byte below the marks is the character that it encodes.
    rw [Char.toNat_inj.1 (show c.toNat = '\x00'.toNat from same.1.symm)] at listed
    exact plain listed
  · exact absurd above (by decide)

/-- A byte of a suggested place, counted from the least one. -/
def placeByte (place : Int) (i : Nat) : UInt8 :=
  UInt8.ofNat ((place / (Nat.pow 256 i : Nat)) % 256).toNat

/-- A byte of a place is a digit of it to the base 256. -/
theorem toNat_placeByte (place : Int) (i : Nat) :
    ((placeByte place i).toNat : Int) = place / (256 ^ i : Nat) % 256 := by
  -- A byte is a digit to the base of two hundred and fifty-six.
  have digit : 0 ≤ place / (256 ^ i : Nat) % 256 ∧ place / (256 ^ i : Nat) % 256 < 256 := by omega
  rw [placeByte, Nat.pow_eq, UInt8.toNat_ofNat', Nat.mod_eq_of_lt (by omega)]
  exact Int.toNat_of_nonneg digit.1

/-- A place is told from its bytes up to one and from what is left above them. -/
theorem eq_of_placeBytes {first second : Int} (count : Nat)
    (same : ∀ i < count, placeByte first i = placeByte second i)
    (above : first / (256 ^ count : Nat) = second / (256 ^ count : Nat)) : first = second := by
  -- Induction on the bytes, from the highest one down.
  induction count with
  | zero => simpa using above
  | succ count ih =>
    refine ih (fun i below => same i (Nat.lt_succ_of_lt below)) ?_
    -- The next byte goes below what is left above it.
    have digit := congrArg (fun byte : UInt8 => (byte.toNat : Int)) (same count (by omega))
    simp only [toNat_placeByte] at digit
    have lower : (0 : Int) ≤ (256 ^ count : Nat) := Int.natCast_nonneg _
    rw [Nat.pow_succ, Int.natCast_mul, ← Int.ediv_ediv_of_nonneg lower,
      ← Int.ediv_ediv_of_nonneg lower] at above
    omega

/-- A place of 64 bits is told from its bytes. -/
theorem bytesOfPlace_inj {first second : Int} (firstFits : minInt64 ≤ first ∧ first ≤ maxInt64)
    (secondFits : minInt64 ≤ second ∧ second ≤ maxInt64)
    (same : bytesOfPlace first = bytesOfPlace second) : first = second := by
  -- Lists of one length agree place by place.
  have each : ∀ i < 8, placeByte first i = placeByte second i := by
    intro i below
    exact List.map_inj_left.1 same i (List.mem_range.2 below)
  refine eq_of_placeBytes 7 (fun i below => each i (by omega)) ?_
  -- The last byte holds the sign.
  have digit := congrArg (fun byte : UInt8 => (byte.toNat : Int)) (each 7 (by omega))
  simp only [toNat_placeByte] at digit
  simp only [minInt64, maxInt64] at firstFits secondFits
  omega

end CalcFields
