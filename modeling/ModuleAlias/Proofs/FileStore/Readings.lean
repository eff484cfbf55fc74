/-
Module: ModuleAlias.Proofs.FileStore.Readings
Purpose: How the text of a file comes from its bytes. Each character of the text is read from one or
  two characters of the file: a line feed from any line break, every other character from itself. So
  each place between two characters of the text is a place of the file, and a stretch of the file
  reads as itself exactly when it holds no carriage return.
Imports: ModuleAlias.FileStore, ModuleAlias.Script.Extent, Mathlib.Data.List.Basic
Main exports: FileStore.Reading, FileStore.readings, FileStore.textBytes, FileStore.fileBytes,
  FileStore.textBytes_eq_fileBytes_iff, FileStore.fileOffset, FileStore.fileOffset_append,
  FileStore.exists_append_of_between_of_le
-/
import ModuleAlias.FileStore
import ModuleAlias.Script.Extent
import Mathlib.Data.List.Basic

namespace ModuleAlias.FileStore

/-- What one character of a text is read from: a character that is no carriage return, a carriage
return on its own, or one with a line feed after it. -/
inductive Reading where
  | kept (char : Char) (ordinary : char ≠ '\r')
  | lone
  | pair

namespace Reading

/-- The character of the text. -/
def char : Reading → Char
  | kept char _ => char
  | lone => '\n'
  | pair => '\n'

/-- The characters of the file. -/
def source : Reading → List Char
  | kept char _ => [char]
  | lone => ['\r']
  | pair => ['\r', '\n']

theorem char_ne_return (reading : Reading) : reading.char ≠ '\r' := by
  cases reading with
  | kept char ordinary => exact ordinary
  | lone => decide
  | pair => decide

/-- Without a carriage return in it, a reading is a character that stands for itself. -/
theorem source_eq_of_return_not_mem {reading : Reading} (ordinary : '\r' ∉ reading.source) :
    reading.source = [reading.char] := by
  cases reading with
  | kept char _ => rfl
  | lone => simp [source] at ordinary
  | pair => simp [source] at ordinary

end Reading

/-- The readings of the characters of a file. -/
def readings : List Char → List Reading
  | [] => []
  | '\r' :: '\n' :: rest => .pair :: readings rest
  | c :: rest => (if ordinary : c = '\r' then .lone else .kept c ordinary) :: readings rest

/-- The byte of a carriage return. -/
def carriageReturn : UInt8 := 13

/-- The bytes of characters. -/
def bytesOf (chars : List Char) : ByteArray := (String.ofList chars).toUTF8

/-- The bytes of the text that readings make up. -/
def textBytes (readings : List Reading) : ByteArray := bytesOf (readings.map Reading.char)

/-- The bytes of the file that readings come from. -/
def fileBytes (readings : List Reading) : ByteArray := bytesOf (readings.flatMap Reading.source)

theorem map_char_readings (chars : List Char) :
    (readings chars).map Reading.char = unifyLines chars := by
  fun_induction readings chars with
  | case1 => rfl
  | case2 rest ih => simp [unifyLines, Reading.char, ih]
  | case3 c rest other ih =>
      by_cases ordinary : c = '\r'
      · subst ordinary
        rw [unifyLines]
        · simp [Reading.char, ih]
        · exact fun more => other more rfl
      · rw [unifyLines]
        · simp [ordinary, Reading.char, ih]
        · exact other
        · exact ordinary

theorem flatMap_source_readings (chars : List Char) :
    (readings chars).flatMap Reading.source = chars := by
  fun_induction readings chars with
  | case1 => rfl
  | case2 rest ih => simp [Reading.source, ih]
  | case3 c rest other ih =>
      by_cases ordinary : c = '\r'
      · simp [ordinary, Reading.source, ih]
      · simp [ordinary, Reading.source, ih]

/-!
### Bytes
-/

theorem bytesOf_append (first second : List Char) :
    bytesOf (first ++ second) = bytesOf first ++ bytesOf second := by
  simp [bytesOf, String.toUTF8]

theorem bytesOf_injective {first second : List Char} (same : bytesOf first = bytesOf second) :
    first = second :=
  String.ofList_injective (String.toByteArray_inj.1 same)

theorem size_bytesOf_singleton (c : Char) : (bytesOf [c]).size = c.utf8Size := by
  simp [bytesOf, String.toUTF8, List.utf8Encode]

theorem ofNat_ne_return {value : Nat} (large : 128 ≤ value) (small : value < 256) :
    carriageReturn ≠ UInt8.ofNat value := by
  intro same
  have number := congrArg UInt8.toNat same
  rw [UInt8.toNat_ofNat', Nat.mod_eq_of_lt small] at number
  have : carriageReturn.toNat = 13 := rfl
  omega

theorem return_mem_utf8EncodeChar {c : Char} :
    carriageReturn ∈ String.utf8EncodeChar c ↔ c = '\r' := by
  constructor
  · intro held
    unfold String.utf8EncodeChar at held
    dsimp only at held
    split at held
    · rename_i ascii
      rw [List.mem_singleton] at held
      have number := congrArg UInt8.toNat held
      rw [UInt8.toNat_ofNat', Nat.mod_eq_of_lt (by omega)] at number
      apply Char.ext
      apply UInt32.toNat_inj.1
      exact number.symm
    · -- Every byte of a longer character has its highest bit set.
      split at held
      · simp only [List.mem_cons, List.not_mem_nil, or_false] at held
        rcases held with same | same
        · exact absurd same (ofNat_ne_return (by omega) (by omega))
        · exact absurd same (ofNat_ne_return (by omega) (by omega))
      · split at held
        · simp only [List.mem_cons, List.not_mem_nil, or_false] at held
          rcases held with same | same | same
          · exact absurd same (ofNat_ne_return (by omega) (by omega))
          · exact absurd same (ofNat_ne_return (by omega) (by omega))
          · exact absurd same (ofNat_ne_return (by omega) (by omega))
        · simp only [List.mem_cons, List.not_mem_nil, or_false] at held
          rcases held with same | same | same | same
          · exact absurd same (ofNat_ne_return (by omega) (by omega))
          · exact absurd same (ofNat_ne_return (by omega) (by omega))
          · exact absurd same (ofNat_ne_return (by omega) (by omega))
          · exact absurd same (ofNat_ne_return (by omega) (by omega))
  · rintro rfl
    decide

/-- The byte of a carriage return is only found where the character is. -/
theorem return_mem_bytesOf {chars : List Char} :
    carriageReturn ∈ (bytesOf chars).data ↔ '\r' ∈ chars := by
  have bytes : (bytesOf chars).data = (chars.flatMap String.utf8EncodeChar).toArray := by
    simp [bytesOf, String.toUTF8, List.utf8Encode]
  rw [bytes, List.mem_toArray, List.mem_flatMap]
  constructor
  · rintro ⟨c, known, held⟩
    exact return_mem_utf8EncodeChar.1 held ▸ known
  · intro known
    exact ⟨'\r', known, return_mem_utf8EncodeChar.2 rfl⟩

theorem textBytes_append (first second : List Reading) :
    textBytes (first ++ second) = textBytes first ++ textBytes second := by
  rw [textBytes, List.map_append, bytesOf_append, textBytes, textBytes]

theorem fileBytes_append (first second : List Reading) :
    fileBytes (first ++ second) = fileBytes first ++ fileBytes second := by
  rw [fileBytes, List.flatMap_append, bytesOf_append, fileBytes, fileBytes]

theorem size_textBytes_singleton (reading : Reading) :
    (textBytes [reading]).size = reading.char.utf8Size :=
  size_bytesOf_singleton reading.char

theorem size_textBytes_singleton_le (reading : Reading) :
    (textBytes [reading]).size ≤ (fileBytes [reading]).size := by
  cases reading with
  | kept char ordinary => exact Nat.le_refl _
  | lone => decide +kernel
  | pair => decide +kernel

/-- Nothing is read that is longer than what it is read from. -/
theorem size_textBytes_le (readings : List Reading) :
    (textBytes readings).size ≤ (fileBytes readings).size := by
  induction readings with
  | nil => exact Nat.le_refl _
  | cons reading readings ih =>
      rw [← List.singleton_append, textBytes_append, fileBytes_append, ByteArray.size_append,
        ByteArray.size_append]
      exact Nat.add_le_add (size_textBytes_singleton_le reading) ih

/-- A stretch of a file reads as itself exactly when it holds no carriage return. -/
theorem textBytes_eq_fileBytes_iff {readings : List Reading} :
    textBytes readings = fileBytes readings ↔ carriageReturn ∉ (fileBytes readings).data := by
  rw [fileBytes, return_mem_bytesOf]
  constructor
  · intro same held
    have chars : readings.map Reading.char = readings.flatMap Reading.source :=
      bytesOf_injective same
    rw [← chars] at held
    obtain ⟨reading, _, is⟩ := List.mem_map.1 held
    exact reading.char_ne_return is
  · intro ordinary
    have chars : readings.map Reading.char = readings.flatMap Reading.source := by
      induction readings with
      | nil => rfl
      | cons reading readings ih =>
          rw [List.flatMap_cons, List.mem_append, not_or] at ordinary
          rw [List.map_cons, List.flatMap_cons, ih ordinary.2,
            Reading.source_eq_of_return_not_mem ordinary.1, List.singleton_append]
    rw [textBytes, chars]

/-!
### Places
-/

/-- The byte of a file at which the character is read that begins at a byte of the text. -/
def fileOffset : List Reading → Nat → Nat
  | [], _ => 0
  | reading :: readings, offset =>
    if offset = 0 then 0
    else (fileBytes [reading]).size + fileOffset readings (offset - reading.char.utf8Size)

theorem fileOffset_zero (readings : List Reading) : fileOffset readings 0 = 0 := by
  cases readings with
  | nil => rfl
  | cons reading readings => simp [fileOffset]

/-- Behind some readings of a text, one is as far in the file as they reach. -/
theorem fileOffset_append (before after : List Reading) :
    fileOffset (before ++ after) (textBytes before).size = (fileBytes before).size := by
  induction before with
  | nil => exact fileOffset_zero after
  | cons reading before ih =>
      have text : (textBytes (reading :: before)).size =
          reading.char.utf8Size + (textBytes before).size := by
        rw [← List.singleton_append, textBytes_append, ByteArray.size_append,
          size_textBytes_singleton]
      have file : (fileBytes (reading :: before)).size =
          (fileBytes [reading]).size + (fileBytes before).size := by
        rw [← List.singleton_append, fileBytes_append, ByteArray.size_append]
      have forward : reading.char.utf8Size + (textBytes before).size ≠ 0 := by
        have := reading.char.utf8Size_pos
        omega
      rw [List.cons_append, fileOffset, text, if_neg forward, Nat.add_sub_cancel_left, ih, file]

/-- A place between two characters of a text parts its readings. -/
theorem exists_append_of_between {readings : List Reading} {offset : Nat}
    (between : Script.BetweenCharacters (String.ofList (readings.map Reading.char)) offset) :
    ∃ before after, readings = before ++ after ∧ offset = (textBytes before).size := by
  obtain ⟨count, reached⟩ := String.Pos.Raw.isValid_ofList.1 between
  refine ⟨readings.take count, readings.drop count, (List.take_append_drop count readings).symm, ?_⟩
  rw [textBytes, List.map_take]
  exact reached

/-- A later place between two characters parts the readings behind an earlier one. -/
theorem exists_append_of_between_of_le {before after : List Reading} {offset : Nat}
    (between : Script.BetweenCharacters
      (String.ofList ((before ++ after).map Reading.char)) offset)
    (later : (textBytes before).size ≤ offset) :
    ∃ middle rest, after = middle ++ rest ∧ offset = (textBytes (before ++ middle)).size := by
  obtain ⟨front, back, parted, reached⟩ := exists_append_of_between between
  rcases List.append_eq_append_iff.1 parted with ⟨middle, ahead, behind⟩ | ⟨middle, ahead, behind⟩
  · exact ⟨middle, back, behind, ahead ▸ reached⟩
  · -- The places are the same: what lies between them has no bytes.
    have none : (textBytes middle).size = 0 := by
      rw [ahead, textBytes_append, ByteArray.size_append, ← reached] at later
      omega
    have empty : middle = [] := by
      cases middle with
      | nil => rfl
      | cons reading middle =>
          have := reading.char.utf8Size_pos
          rw [← List.singleton_append, textBytes_append, ByteArray.size_append,
            size_textBytes_singleton] at none
          omega
    rw [empty, List.append_nil] at ahead
    exact ⟨[], after, rfl, by rw [List.append_nil, ahead, reached]⟩

end ModuleAlias.FileStore
