import Mathlib.Algebra.Group.Nat.Defs
import TabDeck.Error
import TabDeck.Proofs.Runs

/-!
# The stored form delimits itself

A reader is told neither how long the stored form of a value is nor where the next one begins.
`Delimits` says that it needs not be: it takes exactly those bytes off the front of whatever follows
them, and of any shorter part of them it says that the rest is missing. Readers in a row delimit the
stored forms in a row, so that it is enough to look at one number, one flag and one choice.

Only numbers take some care. A number of full length has four bits left for its last byte, which is
why the statement about `readNumberWithin` bounds the value by `lastByteMax` and not by a power of
the base.
-/

namespace TabDeck

namespace Stored

variable {α β : Type}

/-- A reader takes the stored form of a value off the front of what it is given, and finds every
strict prefix of it truncated. -/
structure Delimits (reader : Reader α) (bytes : List UInt8) (value : α) : Prop where
  reads : ∀ rest, reader (bytes ++ rest) = .ok (value, rest)
  truncated : ∀ part, part <+: bytes → part ≠ bytes → reader part = .error .truncated

namespace Delimits

theorem pure (value : α) : Delimits (Pure.pure value) [] value := by
  refine ⟨fun rest => rfl, ?_⟩
  intro part within strict
  exact absurd (List.prefix_nil.mp within) strict

/-- A prefix of two forms in a row is a strict prefix of the first, or all of it and a prefix of the
second. -/
theorem bind {first : Reader α} {next : α → Reader β} {bytes further : List UInt8} {value : α}
    {result : β} (delimits : Delimits first bytes value)
    (later : Delimits (next value) further result) :
    Delimits (first >>= next) (bytes ++ further) result := by
  constructor
  · intro rest
    show (first ((bytes ++ further) ++ rest) >>= fun read => next read.1 read.2) = _
    rw [List.append_assoc, delimits.reads]
    exact later.reads rest
  · intro part within strict
    show (first part >>= fun read => next read.1 read.2) = _
    by_cases whole : bytes <+: part
    · rcases whole with ⟨tail, rfl⟩
      rw [List.prefix_append_right_inj] at within
      rw [delimits.reads]
      apply later.truncated tail within
      intro same
      exact strict (by rw [same])
    · have shorter : part <+: bytes := by
        rcases List.prefix_or_prefix_of_prefix within (List.prefix_append bytes further) with
          below | above
        · exact below
        · exact absurd above whole
      rw [delimits.truncated part shorter]
      · rfl
      · rintro rfl
        exact whole (List.prefix_refl part)

end Delimits

/-- One byte is read or missing. -/
theorem delimits_of_singleton {reader : Reader α} {byte : UInt8} {value : α}
    (reads : ∀ rest, reader (byte :: rest) = .ok (value, rest))
    (missing : reader [] = .error .truncated) : Delimits reader [byte] value := by
  refine ⟨reads, ?_⟩
  intro part within strict
  cases part with
  | nil => exact missing
  | cons first rest =>
    rcases List.cons_prefix_cons.mp within with ⟨rfl, empty⟩
    rw [List.prefix_nil.mp empty] at strict
    exact absurd rfl strict

/-! ## Numbers -/

/-- A number of one byte. In the last place there is no room for three of the seven bits. -/
theorem delimits_byte {room value : Nat} (small : value < 128) (last : room = 0 → value < 16) :
    Delimits (readNumberWithin (room + 1)) [value.toUInt8] value := by
  have byte : value.toUInt8.toNat = value := by simp; omega
  apply delimits_of_singleton
  · intro rest
    have low : value.toUInt8 < 128 := by simp [UInt8.lt_iff_toNat_lt, byte, small]
    have within : ¬(room = 0 ∧ lastByteMax < value.toUInt8) := by
      rintro ⟨isLast, above⟩
      have below := last isLast
      simp only [UInt8.lt_iff_toNat_lt, byte, lastByteMax] at above
      simp at above
      omega
    simp only [readNumberWithin, if_pos low, if_neg within, byte]
  · rfl

/-- A number whose first byte says that there are more. -/
theorem delimits_group {room value : Nat} {bytes : List UInt8}
    (later : Delimits (readNumberWithin room) bytes (value / 128)) :
    Delimits (readNumberWithin (room + 1)) ((value % 128 + 128).toUInt8 :: bytes) value := by
  have byte : (value % 128 + 128).toUInt8.toNat = value % 128 + 128 := by simp; omega
  have high : ¬(value % 128 + 128).toUInt8 < 128 := by
    rw [UInt8.lt_iff_toNat_lt, byte]
    simp
  constructor
  · intro rest
    rw [List.cons_append, readNumberWithin, if_neg high, later.reads, byte]
    simp only [Except.ok.injEq, Prod.mk.injEq, and_true]
    omega
  · intro part within strict
    cases part with
    | nil => rfl
    | cons first rest =>
      rcases List.cons_prefix_cons.mp within with ⟨rfl, shorter⟩
      rw [readNumberWithin, if_neg high, later.truncated rest shorter]
      rintro rfl
      exact strict rfl

/-- With room for some bytes after the first, a reader takes every number that has as many groups of
bits and four more bits. -/
theorem delimits_number_within (room : Nat) {value : Nat} (fits : value < 16 * 128 ^ room) :
    Delimits (readNumberWithin (room + 1)) (number value) value := by
  induction room generalizing value with
  | zero =>
    have small : value < 16 := by simpa using fits
    rw [number, if_pos (by omega)]
    apply delimits_byte
    · omega
    · exact fun _ => small
  | succ room ih =>
    rw [number]
    split
    · next small =>
      apply delimits_byte small
      simp
    · apply delimits_group
      apply ih
      rw [Nat.pow_succ] at fits
      omega

theorem delimits_number {value : Nat} (fits : value < Word.modulus) :
    Delimits readNumber (number value) value := by
  apply delimits_number_within 4
  simpa [Word.modulus] using fits

/-! ## Flags and choices -/

theorem delimits_flag (value : Bool) : Delimits readFlag (flag value) value := by
  apply delimits_of_singleton
  · intro rest
    cases value <;> rfl
  · rfl

/-- The number of a choice is read back as that choice. -/
theorem delimits_choice {first second value : α} {index : Nat}
    (chosen : index = 0 ∧ value = first ∨ index = 1 ∧ value = second) :
    Delimits (readChoice first second) (number index) value := by
  have fits : index < Word.modulus := by
    simp only [Word.modulus]
    omega
  rw [← List.append_nil (number index)]
  apply (delimits_number fits).bind
  rcases chosen with ⟨rfl, rfl⟩ | ⟨rfl, rfl⟩
  · exact Delimits.pure value
  · exact Delimits.pure value

theorem delimits_edge (value : StripEdge) :
    Delimits (readChoice .top .bottom) (edge value) value := by
  cases value <;> apply delimits_choice <;> simp

theorem delimits_style (value : Style) :
    Delimits (readChoice .classic .material) (style value) value := by
  cases value <;> apply delimits_choice <;> simp

theorem delimits_mode (value : PaneMode) :
    Delimits (readChoice .paged .flick) (mode value) value := by
  cases value <;> apply delimits_choice <;> simp

theorem delimits_border (value : Border) :
    Delimits (readChoice .framed .bare) (border value) value := by
  cases value <;> apply delimits_choice <;> simp

/-! ## Settings -/

end Stored

/-- The numbers in the insets are words. -/
structure Insets.InWords (insets : Insets) : Prop where
  top : insets.top < Word.modulus
  right : insets.right < Word.modulus
  bottom : insets.bottom < Word.modulus
  left : insets.left < Word.modulus

/-- The numbers in the settings are words. -/
structure Settings.InWords (settings : Settings) : Prop where
  extraHeight : settings.extraHeight < Word.modulus
  touchTolerance : settings.touchTolerance < Word.modulus
  insets : settings.insets.InWords

namespace Stored

theorem delimits_insets {value : Insets} (fits : value.InWords) :
    Delimits readInsets (insets value) value := by
  rw [insets, ← List.append_nil (number value.left)]
  simp only [List.append_assoc]
  apply (delimits_number fits.top).bind
  apply (delimits_number fits.right).bind
  apply (delimits_number fits.bottom).bind
  apply (delimits_number fits.left).bind
  exact Delimits.pure value

/-- All fields in a row. -/
theorem delimits_settings {settings : Settings} (fits : settings.InWords) :
    Delimits readSettings settings.encode settings := by
  rw [Settings.encode, ← List.append_nil (insets settings.insets)]
  simp only [List.append_assoc]
  apply (delimits_edge settings.edge).bind
  apply (delimits_style settings.style).bind
  apply (delimits_mode settings.mode).bind
  apply (delimits_border settings.border).bind
  apply (delimits_flag settings.equalWidths).bind
  apply (delimits_number fits.extraHeight).bind
  apply (delimits_flag settings.showArrows).bind
  apply (delimits_flag settings.flickIntoDisabled).bind
  apply (delimits_flag settings.keyboardFocus).bind
  apply (delimits_flag settings.clickSound).bind
  apply (delimits_number fits.touchTolerance).bind
  apply (delimits_insets fits.insets).bind
  exact Delimits.pure settings

end Stored

/-- Settings are read back from their stored form, whatever follows it, and from less than all of it
nothing is read: bytes are found missing. -/
theorem stored_form_delimited {settings : Settings} (fits : settings.InWords) :
    (∀ rest, (Settings.decode (settings.encode ++ rest)).mapError DeckError.stored =
      .ok settings) ∧
    ∀ part, part <+: settings.encode → part ≠ settings.encode →
      (Settings.decode part).mapError DeckError.stored = .error (.stored .truncated) := by
  have delimits := Stored.delimits_settings fits
  constructor
  · intro rest
    rw [Settings.decode, delimits.reads]
    rfl
  · intro part within strict
    rw [Settings.decode, delimits.truncated part within strict]
    rfl

/-- Settings with the largest number, with numbers on both sides of a boundary between lengths, and
with choices and flags that differ from the usual ones. -/
def extremeSettings : Settings where
  edge := .bottom
  mode := .flick
  clickSound := true
  extraHeight := 4294967295
  touchTolerance := 127
  insets := ⟨128, 16384, 2097152, 268435456⟩

/-- They are read back although other bytes follow, and not without the last one. -/
theorem extreme_settings_delimited :
    extremeSettings.InWords ∧
    (Settings.decode (extremeSettings.encode ++ [255, 7])).mapError DeckError.stored =
      .ok extremeSettings ∧
    extremeSettings.encode.dropLast ≠ extremeSettings.encode ∧
    (Settings.decode extremeSettings.encode.dropLast).mapError DeckError.stored =
      .error (.stored .truncated) := by
  have fits : extremeSettings.InWords := by
    refine ⟨?_, ?_, ?_, ?_, ?_, ?_⟩ <;> decide
  have strict : extremeSettings.encode.dropLast ≠ extremeSettings.encode := by
    intro same
    have shorter := congrArg List.length same
    simp [Settings.encode, Stored.insets, Stored.flag, extremeSettings] at shorter
  rcases stored_form_delimited fits with ⟨reads, truncated⟩
  exact ⟨fits, reads [255, 7], strict,
    truncated _ (List.dropLast_prefix extremeSettings.encode) strict⟩

end TabDeck
