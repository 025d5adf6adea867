import FeatureTables.Geometry.Decode
import FeatureTables.Text.Upper
import Mathlib.Data.List.Basic

namespace FeatureTables

namespace Hex

variable {digit : Nat → Char} {bytes : List UInt8}

def written (digit : Nat → Char) (bytes : List UInt8) : List Char :=
  bytes.flatMap fun byte => [digit (byte.toNat / 16), digit (byte.toNat % 16)]

def smallText (bytes : List UInt8) : String := String.ofList (written Nat.digitChar bytes)

def capitalText (bytes : List UInt8) : String := String.ofList (Text.upper (smallText bytes).toList)

def code (digit : Nat → Char) (n : Nat) : UInt8 := UInt8.ofNat (digit n).toNat

def Readable (digit : Nat → Char) : Prop :=
  ∀ n < 16, String.utf8EncodeChar (digit n) = [code digit n] ∧ digitValue? (code digit n) = some n

instance : Decidable (Readable digit) := inferInstanceAs (Decidable (∀ n < 16, _))

theorem high_lt (byte : UInt8) : byte.toNat / 16 < 16 := by
  have := byte.toNat_lt
  omega

theorem low_lt (byte : UInt8) : byte.toNat % 16 < 16 := Nat.mod_lt _ (by decide)

theorem small_readable : Readable Nat.digitChar := by decide

theorem capital_readable : Readable fun n => Text.upperAscii (Nat.digitChar n) := by decide

theorem capitalText_written (bytes : List UInt8) :
    capitalText bytes = String.ofList (written (fun n => Text.upperAscii (Nat.digitChar n)) bytes) := by
  have single : ∀ n < 16, Text.upperChar (Nat.digitChar n) = [Text.upperAscii (Nat.digitChar n)] := by decide
  have letters : Text.upper (written Nat.digitChar bytes) =
      written (fun n => Text.upperAscii (Nat.digitChar n)) bytes := by
    unfold Text.upper written
    rw [List.flatMap_assoc]
    refine List.flatMap_congr fun byte _ => ?_
    simp [single _ (high_lt byte), single _ (low_lt byte)]
  rw [capitalText, smallText, String.toList_ofList, letters]

theorem Readable.utf8_written (readable : Readable digit) (bytes : List UInt8) :
    utf8 (String.ofList (written digit bytes)) =
      bytes.flatMap fun byte => [code digit (byte.toNat / 16), code digit (byte.toNat % 16)] := by
  rw [utf8, String.toList_ofList, written, List.flatMap_assoc]
  refine List.flatMap_congr fun byte _ => ?_
  simp [(readable _ (high_lt byte)).1, (readable _ (low_lt byte)).1]

theorem Readable.decode (readable : Readable digit) (bytes : List UInt8) :
    decode (utf8 (String.ofList (written digit bytes))) = some bytes := by
  rw [readable.utf8_written]
  exact decode_digits (fun n digital => (readable n digital).2) bytes

theorem digit_of_value (value : digitValue? byte = some n) (low : n < 2) : byte = 48 ∨ byte = 49 := by
  unfold digitValue? at value
  have code : byte.toNat = 48 ∨ byte.toNat = 49 := by grind
  exact code.imp UInt8.toNat.inj UInt8.toNat.inj

end Hex

namespace Wkb

variable {digit : Nat → Char} {bytes : List UInt8}

theorem binary?_low (low : ∀ first ∈ bytes.head?, first < 32) : binary? bytes = some bytes := by
  cases bytes with
  | nil => rfl
  | cons first rest =>
    have below := low first rfl
    have binary : ¬ (first = 48 ∨ first = 49) := by
      rintro (rfl | rfl) <;> exact absurd below (by decide)
    rw [binary?, if_neg binary]

theorem binary?_written (readable : Hex.Readable digit) (low : ∀ first ∈ bytes.head?, first < 32) :
    binary? (utf8 (String.ofList (Hex.written digit bytes))) = some bytes := by
  have decoded := readable.decode bytes
  cases bytes with
  | nil => rfl
  | cons first rest =>
    have below : first.toNat / 16 < 2 := by
      have bound : first.toNat < 32 := UInt8.lt_iff_toNat_lt.mp (low first rfl)
      omega
    rw [readable.utf8_written, List.flatMap_cons, List.cons_append] at decoded ⊢
    rw [binary?, if_pos (Hex.digit_of_value (readable _ (Hex.high_lt first)).2 below), decoded]

end Wkb

variable {cell other : Cell}

theorem Cell.copied_buffer (kind : BufferKind) (bytes : List UInt8) :
    (Cell.buffer kind bytes).copied = .buffer .bytes bytes := by
  cases kind <;> rfl

theorem decoders_congr (one : cell ≠ .null) (two : other ≠ .null) (same : Wkb.readCell? cell = Wkb.readCell? other) :
    decodeValue cell = decodeValue other ∧ decodeEnvelope cell = decodeEnvelope other := by
  have decoded (reading : Reading) : Wkb.decode reading cell = Wkb.decode reading other := by
    rw [Wkb.decode, Wkb.decode, same]
  constructor
  · rw [decodeValue, decodeValue, if_neg one, if_neg two, decoded]
  · rw [decodeEnvelope, decodeEnvelope, if_neg one, if_neg two, decoded]

-- All buffers of the same bytes are decoded alike, whether or not they hold a geometry,
-- and so is their hexadecimal text where they begin with a byte order mark.
theorem buffers_alike (bytes : List UInt8) :
    (∀ kind, decodeValue (.buffer kind bytes) = decodeValue (.buffer .bytes bytes) ∧
      decodeEnvelope (.buffer kind bytes) = decodeEnvelope (.buffer .bytes bytes)) ∧
    ((∀ mark ∈ bytes.head?, mark = 0 ∨ mark = 1) → ∀ text ∈ [Hex.smallText bytes, Hex.capitalText bytes],
      decodeValue (.datum (.text text)) = decodeValue (.buffer .bytes bytes) ∧
      decodeEnvelope (.datum (.text text)) = decodeEnvelope (.buffer .bytes bytes)) := by
  refine ⟨fun kind => decoders_congr nofun nofun ?_, fun marked text member => ?_⟩
  · rw [Wkb.readCell?, Wkb.readCell?, Cell.copied_buffer, Cell.copied_buffer]
  have low : ∀ first ∈ bytes.head?, first < 32 := by
    intro first given
    rcases marked first given with rfl | rfl <;> decide
  have shown : Wkb.binary? (utf8 text) = some bytes := by
    have written : text = Hex.smallText bytes ∨ text = Hex.capitalText bytes := by simpa using member
    rcases written with rfl | rfl
    · exact Wkb.binary?_written Hex.small_readable low
    · rw [Hex.capitalText_written]
      exact Wkb.binary?_written Hex.capital_readable low
  refine decoders_congr nofun nofun ?_
  calc Wkb.readCell? (.datum (.text text)) = Wkb.binary? (utf8 text) >>= Wkb.read := rfl
    _ = Wkb.binary? bytes >>= Wkb.read := by rw [shown, Wkb.binary?_low low]

theorem buffers_alike_sample :
    let line : List UInt8 := [0, 0, 0, 0, 2, 0, 0, 0, 2, 0x3f, 0xf0, 0, 0, 0, 0, 0, 0, 0x40, 0x25, 0, 0, 0, 0, 0, 0,
      0x40, 0, 0, 0, 0, 0, 0, 0, 0x40, 0x20, 0, 0, 0, 0, 0, 0]
    let small := "0000000002000000023ff0000000000000402500000000000040000000000000004020000000000000"
    let capital := "0000000002000000023FF0000000000000402500000000000040000000000000004020000000000000"
    let vertices : List Vertex := [⟨⟨0x3ff0000000000000⟩, ⟨0x4025000000000000⟩, []⟩,
      ⟨⟨0x4000000000000000⟩, ⟨0x4020000000000000⟩, []⟩]
    (∀ cell ∈ [.buffer .view line, .datum (.text small), .datum (.text capital)],
      decodeValue cell = .ok (some ⟨0, .lineString ⟨false, false⟩ vertices⟩)) ∧
    ∀ cell ∈ [.buffer .mutable [1, 0xab], .datum (.text "01ab"), .datum (.text "01AB")],
      decodeEnvelope cell = .error (.undecodable .envelope) := by
  intro line small capital vertices
  have whole : decodeValue (.buffer .bytes line) = .ok (some ⟨0, .lineString ⟨false, false⟩ vertices⟩) := rfl
  have cut : decodeEnvelope (.buffer .bytes [1, 0xab]) = .error (.undecodable .envelope) := rfl
  have lineTexts := (buffers_alike line).2 (by simp [line])
  have cutTexts := (buffers_alike [1, 0xab]).2 (by simp)
  have lineWritten : Hex.smallText line = small ∧ Hex.capitalText line = capital := by decide +kernel
  have cutWritten : Hex.smallText [1, 0xab] = "01ab" ∧ Hex.capitalText [1, 0xab] = "01AB" := by decide +kernel
  rw [lineWritten.1, lineWritten.2] at lineTexts
  rw [cutWritten.1, cutWritten.2] at cutTexts
  simp only [List.forall_mem_cons, List.not_mem_nil, false_imp_iff, implies_true, and_true] at lineTexts cutTexts ⊢
  constructor
  · exact ⟨((buffers_alike line).1 .view).1.trans whole, lineTexts.1.1.trans whole, lineTexts.2.1.trans whole⟩
  · exact ⟨((buffers_alike [1, 0xab]).1 .mutable).2.trans cut, cutTexts.1.2.trans cut, cutTexts.2.2.trans cut⟩

end FeatureTables
