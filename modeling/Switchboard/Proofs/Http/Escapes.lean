import Switchboard.Http.Target
import Switchboard.Proofs.Text.Utf8

/-!
Percent escapes. An escape is a percent sign and two hexadecimal digits, the letters of each in either case. Bytes are
decoded from left to right: an escape becomes the byte it denotes, and a byte that begins no escape stays, a percent
sign as well (`unescapes_iff`). What an escape denotes is not looked at again, so that nothing is decoded twice.
-/

namespace Switchboard.Http

/-- A hexadecimal digit, the letters in either case. -/
def hexDigit (upper : Bool) (n : Nat) : Char :=
  if upper then (Nat.digitChar n).toUpper else Nat.digitChar n

/-- The escape of a byte, each digit in a case of its own. -/
def escape (b : UInt8) (upper upper' : Bool) : List Char :=
  ['%', hexDigit upper (b.toNat / 16), hexDigit upper' (b.toNat % 16)]

/-- The bytes of the escape of a byte. -/
def escapeBytes (b : UInt8) (upper upper' : Bool) : Bytes :=
  (escape b upper upper').flatMap String.utf8EncodeChar

/-- Bytes with their escapes replaced, from left to right, by the bytes they denote; a byte that begins no escape
stays. -/
inductive Unescapes : Bytes → Bytes → Prop
  | nil : Unescapes [] []
  | escape (b : UInt8) (upper upper' : Bool) {rest out : Bytes} :
    Unescapes rest out → Unescapes (escapeBytes b upper upper' ++ rest) (b :: out)
  | keep {b : UInt8} {rest out : Bytes} :
    (∀ c upper upper', ¬ escapeBytes c upper upper' <+: b :: rest) →
      Unescapes rest out → Unescapes (b :: rest) (b :: out)

/-! ## Digits -/

/-- The byte of a hexadecimal digit. -/
def hexDigitByte (upper : Bool) (n : Nat) : UInt8 := UInt8.ofNat (hexDigit upper n).toNat

theorem utf8EncodeChar_hexDigit (upper : Bool) {n : Nat} (h : n < 16) :
    String.utf8EncodeChar (hexDigit upper n) = [hexDigitByte upper n] := by
  have hall : ∀ upper : Bool, ∀ n : Fin 16,
      String.utf8EncodeChar (hexDigit upper n) = [hexDigitByte upper n] := by decide +kernel
  exact hall upper ⟨n, h⟩

/-- A digit has its value in either case. -/
theorem hexValue?_hexDigitByte (upper : Bool) {n : Nat} (h : n < 16) :
    Text.hexValue? (hexDigitByte upper n) = some n := by
  have hall : ∀ upper : Bool, ∀ n : Fin 16, Text.hexValue? (hexDigitByte upper n) = some n.val := by decide +kernel
  exact hall upper ⟨n, h⟩

/-- What has a value is a digit. -/
theorem exists_hexDigitByte {b : UInt8} {n : Nat} (h : Text.hexValue? b = some n) :
    n < 16 ∧ ∃ upper, b = hexDigitByte upper n := by
  have hall : ∀ k : Fin 256, ∀ n ∈ Text.hexValue? (UInt8.ofNat k),
      n < 16 ∧ ∃ upper, UInt8.ofNat k = hexDigitByte upper n := by decide +kernel
  have hb := hall ⟨b.toNat, b.toNat_lt⟩ n
  rw [UInt8.ofNat_toNat] at hb
  exact hb h

theorem escapeBytes_eq (b : UInt8) (upper upper' : Bool) :
    escapeBytes b upper upper' = [37, hexDigitByte upper (b.toNat / 16), hexDigitByte upper' (b.toNat % 16)] := by
  have hb := b.toNat_lt
  have hpercent : String.utf8EncodeChar '%' = [37] := by decide +kernel
  rw [escapeBytes, escape, List.flatMap_cons, List.flatMap_cons, List.flatMap_cons, hpercent,
    utf8EncodeChar_hexDigit upper (by omega), utf8EncodeChar_hexDigit upper' (by omega)]
  rfl

/-- Two digits after a percent sign make the escape of a byte. -/
theorem exists_escape {x y : UInt8} {high low : Nat} (hx : Text.hexValue? x = some high)
    (hy : Text.hexValue? y = some low) :
    ∃ upper upper', escapeBytes (UInt8.ofNat (high * 16 + low)) upper upper' = [37, x, y] := by
  obtain ⟨hhigh, upper, rfl⟩ := exists_hexDigitByte hx
  obtain ⟨hlow, upper', rfl⟩ := exists_hexDigitByte hy
  refine ⟨upper, upper', ?_⟩
  have hbyte := Text.toNat_ofNat_of_lt (show high * 16 + low < 256 by omega)
  rw [escapeBytes_eq, hbyte, show (high * 16 + low) / 16 = high by omega, show (high * 16 + low) % 16 = low by omega]

/-- An escape begins with a percent sign and two digits. -/
theorem digits_of_prefix {c : UInt8} {upper upper' : Bool} {w : Bytes} (h : escapeBytes c upper upper' <+: w) :
    ∃ x y rest, w = 37 :: x :: y :: rest ∧ Text.hexValue? x = some (c.toNat / 16) ∧
      Text.hexValue? y = some (c.toNat % 16) := by
  have hc := c.toNat_lt
  obtain ⟨rest, rfl⟩ := h
  refine ⟨_, _, rest, by rw [escapeBytes_eq]; rfl, ?_, ?_⟩
  · exact hexValue?_hexDigitByte upper (by omega)
  · exact hexValue?_hexDigitByte upper' (by omega)

theorem not_prefix_of_ne {b : UInt8} (hb : b ≠ 37) (rest : Bytes) (c : UInt8) (upper upper' : Bool) :
    ¬ escapeBytes c upper upper' <+: b :: rest := by
  intro hc
  obtain ⟨x, y, rest', hw, -, -⟩ := digits_of_prefix hc
  exact hb (List.cons.inj hw).1

/-! ## Decoding -/

variable {plus : Bool}

/-- An escape is decoded to the byte it is the escape of. -/
theorem percentDecodeBytes_escape (b : UInt8) (upper upper' : Bool) (rest : Bytes) :
    percentDecodeBytes plus (escapeBytes b upper upper' ++ rest) = b :: percentDecodeBytes plus rest := by
  have hb := b.toNat_lt
  have hbyte : UInt8.ofNat (b.toNat / 16 * 16 + b.toNat % 16) = b := by
    rw [Nat.div_add_mod', UInt8.ofNat_toNat]
  rw [escapeBytes_eq]
  simp only [List.cons_append, List.nil_append, percentDecodeBytes]
  rw [hexValue?_hexDigitByte upper (show b.toNat / 16 < 16 by omega),
    hexValue?_hexDigitByte upper' (show b.toNat % 16 < 16 by omega)]
  simp only [hbyte]

/-- A byte that begins no escape stays, unless it is a plus sign that stands for a space. -/
theorem percentDecodeBytes_keep {b : UInt8} {rest : Bytes}
    (h : ∀ c upper upper', ¬ escapeBytes c upper upper' <+: b :: rest) :
    percentDecodeBytes plus (b :: rest) =
      (if plus && b == 43 then 32 else b) :: percentDecodeBytes plus rest := by
  generalize hw : b :: rest = w at h
  fun_cases percentDecodeBytes plus w with
  | case1 => exact absurd hw (List.cons_ne_nil b rest)
  | case2 x y rest high low hlow hhigh =>
    obtain ⟨upper, upper', hescape⟩ := exists_escape hhigh hlow
    exact absurd ⟨rest, by rw [hescape]; rfl⟩ (h _ upper upper')
  | case3 x y =>
    obtain ⟨rfl, rfl⟩ := List.cons.inj hw
    cases plus <;> rfl
  | case4 =>
    obtain ⟨rfl, rfl⟩ := List.cons.inj hw
    rfl

/-- Decoding replaces the escapes and nothing else. -/
theorem unescapes_iff {w out : Bytes} : Unescapes w out ↔ out = percentDecodeBytes false w := by
  constructor
  · intro h
    induction h with
    | nil => rfl
    | escape b upper upper' _ ih => rw [percentDecodeBytes_escape, ih]
    | keep hb _ ih =>
      rw [percentDecodeBytes_keep hb, ih]
      rfl
  · rintro rfl
    fun_induction percentDecodeBytes false w with
    | case1 => exact .nil
    | case2 x y rest high low hlow hhigh ih =>
      obtain ⟨upper, upper', hescape⟩ := exists_escape hhigh hlow
      have hstep := ih.escape (UInt8.ofNat (high * 16 + low)) upper upper'
      rw [hescape] at hstep
      exact hstep
    | case3 x y rest hnone ih =>
      refine .keep (fun c upper upper' hc => ?_) ih
      obtain ⟨x', y', rest', hw, hx, hy⟩ := digits_of_prefix hc
      obtain ⟨rfl, rfl, rfl⟩ : x = x' ∧ y = y' ∧ rest = rest' := by simpa using hw
      exact hnone _ _ hx hy
    | case4 b rest hnone ih =>
      refine .keep (fun c upper upper' hc => ?_) ih
      obtain ⟨x, y, rest', hw, -, -⟩ := digits_of_prefix hc
      obtain ⟨rfl, rfl⟩ := List.cons.inj hw
      exact hnone x y rest' rfl rfl

end Switchboard.Http
