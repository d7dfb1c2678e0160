/-
**Digests as texts.**

A digest is written with two small digits for each of its bytes, a zero in front where one would do.
So its text always has sixty-four digits, and they can be read back two by two. No text of this form
is left out: any two small digits are those of a byte, and any sixty-four those of a digest.

* `Hexadecimal.octets?`: bytes read from digits, two for each;
* `Hexadecimal.octets?_flatMap_octet`: **bytes are read back** from their digits;
* `Hexadecimal.exists_bytes_eq`: **small digits in pairs** are the digits of bytes;
* `Sha256.Digest.HasForm`, `Sha256.Digest.ofText?`: the form of a digest's text, and its reader;
* `Sha256.Digest.text_onto_form`: digests and texts of the form, one for each other.
-/

import AsmTarget.Fingerprint
import Mathlib.Logic.Function.Basic

namespace AsmTarget

/-! ### Bytes and their digits -/

namespace Text.Hexadecimal

/-- The digits from zero to fifteen, with small letters. -/
def smallDigits : List Char := "0123456789abcdef".toList

/-- The bytes that digits stand for, two digits for each, unless one digit is left alone. -/
def octets? : List Char → Option (List UInt8)
  | [] => some []
  | [_] => none
  | high :: low :: rest => do
    let byte ← value? [high, low]
    return .ofNat byte :: (← octets? rest)

theorem smallDigits_eq : smallDigits = (List.range 16).map digit := by
  decide

theorem mem_smallDigits_iff {c : Char} : c ∈ smallDigits ↔ ∃ n < 16, digit n = c := by
  simp only [smallDigits_eq, List.mem_map, List.mem_range]

theorem value?_octet_self (byte : UInt8) : value? (octet byte) = some byte.toNat := by
  have below := byte.toNat_lt
  have leading : value? [digit (byte.toNat / 16)] = some (byte.toNat / 16) := by
    simpa using value?_append_digit (rfl : value? [] = some 0) (n := byte.toNat / 16) (by omega)
  have both := value?_append_digit leading (Nat.mod_lt byte.toNat (by omega))
  rwa [Nat.div_add_mod'] at both

/-- The digits of a byte are read as this byte, whatever follows. -/
theorem octets?_octet_append (byte : UInt8) (rest : List Char) :
    octets? (octet byte ++ rest) = (octets? rest).map (byte :: ·) := by
  show (value? (octet byte)).bind (fun value =>
    (octets? rest).bind fun bytes => some (.ofNat value :: bytes)) = _
  rw [value?_octet_self, Option.bind_some, UInt8.ofNat_toNat, Option.map_eq_bind]
  rfl

/-- **Bytes are read back** from their digits. -/
theorem octets?_flatMap_octet (bytes : List UInt8) :
    octets? (bytes.flatMap octet) = some bytes := by
  induction bytes with
  | nil => rfl
  | cons byte bytes rest => rw [List.flatMap_cons, octets?_octet_append, rest, Option.map_some]

theorem length_flatMap_octet (bytes : List UInt8) :
    (bytes.flatMap octet).length = 2 * bytes.length := by
  simp [List.length_flatMap, octet, List.map_const', Nat.mul_comm]

theorem mem_smallDigits_of_mem_octet {byte : UInt8} {c : Char} (member : c ∈ octet byte) :
    c ∈ smallDigits := by
  have below := byte.toNat_lt
  rw [mem_smallDigits_iff]
  rcases List.mem_cons.mp member with rfl | member
  · exact ⟨byte.toNat / 16, by omega, rfl⟩
  · exact ⟨byte.toNat % 16, by omega, (List.mem_singleton.mp member).symm⟩

/-- Two small digits are those of a byte. -/
theorem exists_octet_eq {high low : Char} (highSmall : high ∈ smallDigits)
    (lowSmall : low ∈ smallDigits) : ∃ byte, octet byte = [high, low] := by
  obtain ⟨first, firstBelow, rfl⟩ := mem_smallDigits_iff.mp highSmall
  obtain ⟨second, secondBelow, rfl⟩ := mem_smallDigits_iff.mp lowSmall
  have value : (UInt8.ofNat (first * 16 + second)).toNat = first * 16 + second :=
    UInt8.toNat_ofNat_of_lt' (by show _ < 256; omega)
  have upper : (first * 16 + second) / 16 = first := by omega
  have lower : (first * 16 + second) % 16 = second := by omega
  exact ⟨.ofNat (first * 16 + second), by rw [octet, value, upper, lower]⟩

/-- **Small digits in pairs** are the digits of bytes, one byte for each pair. -/
theorem exists_bytes_eq {ds : List Char} {count : Nat} (length : ds.length = 2 * count)
    (small : ∀ c ∈ ds, c ∈ smallDigits) :
    ∃ bytes : List UInt8, bytes.length = count ∧ bytes.flatMap octet = ds := by
  induction count generalizing ds with
  | zero => exact ⟨[], rfl, (List.length_eq_zero_iff.mp length).symm⟩
  | succ count rest =>
    obtain ⟨high, others, rfl⟩ := List.exists_cons_of_length_eq_add_one length
    obtain ⟨low, others, rfl⟩ := List.exists_cons_of_length_eq_add_one (Nat.succ.inj length)
    obtain ⟨highSmall, small⟩ := List.forall_mem_cons.mp small
    obtain ⟨lowSmall, small⟩ := List.forall_mem_cons.mp small
    obtain ⟨byte, first⟩ := exists_octet_eq highSmall lowSmall
    obtain ⟨bytes, many, digits⟩ := rest (by simp only [List.length_cons] at length; omega) small
    refine ⟨byte :: bytes, congrArg (· + 1) many, ?_⟩
    rw [List.flatMap_cons, first, digits]
    rfl

end Text.Hexadecimal

open Text

/-! ### Digests and their texts -/

namespace Sha256.Digest

/-- A text is written as those of digests are: sixty-four digits, with small letters. -/
structure HasForm (text : String) : Prop where
  length : text.length = 64
  small : ∀ c ∈ text.toList, c ∈ Hexadecimal.smallDigits

/-- The digest of bytes, if there are thirty-two of them. -/
def ofBytes? (bytes : List UInt8) : Option Digest :=
  if size : bytes.length = 32 then some ⟨bytes.toArray, size⟩ else none

/-- The digest of a text, read two digits at a time. -/
def ofText? (text : String) : Option Digest := do
  ofBytes? (← Hexadecimal.octets? text.toList)

theorem ofBytes?_toList (digest : Digest) : ofBytes? digest.toList = some digest :=
  dif_pos digest.length_toList

theorem exists_toList_eq {bytes : List UInt8} (size : bytes.length = 32) :
    ∃ digest : Digest, digest.toList = bytes :=
  ⟨⟨bytes.toArray, size⟩, rfl⟩

theorem text_toList (digest : Digest) :
    digest.text.toList = digest.toList.flatMap Hexadecimal.octet :=
  String.toList_ofList

theorem hasForm_text (digest : Digest) : HasForm digest.text where
  length := by
    rw [← String.length_toList, text_toList, Hexadecimal.length_flatMap_octet, digest.length_toList]
  small := by
    intro c member
    rw [text_toList] at member
    obtain ⟨byte, -, inside⟩ := List.mem_flatMap.mp member
    exact Hexadecimal.mem_smallDigits_of_mem_octet inside

theorem ofText?_text (digest : Digest) : ofText? digest.text = some digest := by
  rw [ofText?, text_toList, Hexadecimal.octets?_flatMap_octet]
  exact digest.ofBytes?_toList

theorem text_injective : Function.Injective text := by
  intro digest other same
  have read := digest.ofText?_text
  rw [same, ofText?_text, Option.some.injEq] at read
  exact read.symm

/-- A text of the form is that of a digest. -/
theorem HasForm.exists_text_eq {text : String} (form : HasForm text) :
    ∃ digest : Digest, digest.text = text := by
  have length : text.toList.length = 2 * 32 := by rw [String.length_toList, form.length]
  obtain ⟨bytes, size, digits⟩ := Hexadecimal.exists_bytes_eq length form.small
  obtain ⟨digest, rfl⟩ := exists_toList_eq size
  exact ⟨digest, String.toList_injective (digest.text_toList.trans digits)⟩

/-- **Digests and texts of the form, one for each other.** The text of a digest has sixty-four small
digits, from which the digest is read back, two digits for each byte. So two digests have one text
exactly when they are equal, and the texts that are those of exactly one digest are the texts of
sixty-four small digits. -/
theorem text_onto_form (digest other : Digest) (text : String) :
    HasForm digest.text ∧ ofText? digest.text = some digest ∧
      (digest.text = other.text ↔ digest = other) ∧
      (HasForm text ↔ ∃! written : Digest, written.text = text) := by
  refine ⟨digest.hasForm_text, digest.ofText?_text, text_injective.eq_iff, ?onto, ?form⟩
  case onto =>
    intro form
    obtain ⟨written, rfl⟩ := form.exists_text_eq
    exact ⟨written, rfl, fun _ same => text_injective same⟩
  case form =>
    rintro ⟨written, rfl, -⟩
    exact written.hasForm_text

/-- A byte below sixteen has a zero in front. -/
example : text (Vector.replicate 32 0x0a) =
    "0a0a0a0a0a0a0a0a0a0a0a0a0a0a0a0a0a0a0a0a0a0a0a0a0a0a0a0a0a0a0a0a" := by
  decide

end Sha256.Digest

end AsmTarget
