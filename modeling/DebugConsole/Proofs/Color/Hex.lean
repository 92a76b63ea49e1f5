import DebugConsole.Proofs.Json.Strings
import DebugConsole.TextStyle.Json

/-!
# Hexadecimal forms of colors

A text is a form of a color if it is a mark with three or four channels of two characters. Channels
are cut out by their bytes, and every cut is between characters, for a text with characters of more
than one byte is refused before. Of all forms of a color one is written, and any other becomes that
one when its digits are made upper case, its plus signs zero, and a full alpha is dropped.
-/

namespace DebugConsole.Color

open Text (hexValue? hexUpper slice? byteLength isAscii)

/-! ### Forms -/

/-- Two characters with the value of the channel that they are: two digits, or a plus sign with a
digit. -/
inductive Channel : Char → Char → UInt8 → Prop where
  | digits {a b : Char} {m n : Nat} (high : hexValue? a = some m) (low : hexValue? b = some n) :
      Channel a b (.ofNat (16 * m + n))
  | signed {b : Char} {n : Nat} (low : hexValue? b = some n) : Channel '+' b (.ofNat n)

/-- The forms of a color. An opaque color may go without its last channel. -/
inductive Form (c : Color) : List Char → Prop where
  | three {r₁ r₂ g₁ g₂ b₁ b₂ : Char} (red : Channel r₁ r₂ c.red) (green : Channel g₁ g₂ c.green)
      (blue : Channel b₁ b₂ c.blue) (full : c.alpha = 255) :
      Form c ['#', r₁, r₂, g₁, g₂, b₁, b₂]
  | four {r₁ r₂ g₁ g₂ b₁ b₂ a₁ a₂ : Char}
      (red : Channel r₁ r₂ c.red) (green : Channel g₁ g₂ c.green)
      (blue : Channel b₁ b₂ c.blue) (alpha : Channel a₁ a₂ c.alpha) :
      Form c ['#', r₁, r₂, g₁, g₂, b₁, b₂, a₁, a₂]

/-- The character that is written in place of a character of a form. -/
def writtenChar (c : Char) : Char := if c = '+' then '0' else c.toUpper

/-- The form that is written in place of a form: in upper case, without signs, and without an alpha
that is full. -/
def written (form : List Char) : List Char :=
  let upper := form.map writtenChar
  if upper.drop 7 = ['F', 'F'] then upper.take 7 else upper

/-! ### Channels -/

section

variable {a b c : Char} {n : Nat} {value : UInt8}

lemma isAscii_of_hexValue? (h : hexValue? c = some n) : isAscii c = true := by
  have hlt : c.toNat < 128 := by
    unfold hexValue? at h
    split_ifs at h with h09 haf hAF
    · exact Nat.lt_of_le_of_lt (show c.toNat ≤ 57 from h09.2) (by decide)
    · exact Nat.lt_of_le_of_lt (show c.toNat ≤ 102 from haf.2) (by decide)
    · exact Nat.lt_of_le_of_lt (show c.toNat ≤ 70 from hAF.2) (by decide)
  exact decide_eq_true hlt

/-- The upper case digit of the value of a digit is what is written for it. -/
lemma hexUpper_of_hexValue? (h : hexValue? c = some n) : n < 16 ∧ hexUpper n = writtenChar c := by
  have hall : ∀ k < 128, ∀ m ∈ hexValue? (Char.ofNat k),
      m < 16 ∧ hexUpper m = writtenChar (Char.ofNat k) := by decide
  have hc := hall c.toNat (of_decide_eq_true (isAscii_of_hexValue? h))
  rw [Char.ofNat_toNat] at hc
  exact hc n h

lemma channel?_plus (b : Char) :
    channel? ['+', b] = (hexValue? b).bind fun n => if n < 256 then some (.ofNat n) else none := by
  simp [channel?, Text.hexNumber?]

lemma channel?_of_ne_plus (ha : a ≠ '+') (b : Char) :
    channel? [a, b] = (hexValue? a).bind fun m => (hexValue? b).bind fun n =>
      if 16 * m + n < 256 then some (.ofNat (16 * m + n)) else none := by
  simp [channel?, Text.hexNumber?, ha, Option.bind_assoc]

lemma channel?_eq_some_iff : channel? [a, b] = some value ↔ Channel a b value := by
  constructor
  · intro h
    by_cases ha : a = '+'
    · subst ha
      rw [channel?_plus] at h
      obtain ⟨n, low, h⟩ := Option.bind_eq_some_iff.mp h
      obtain ⟨-, ⟨⟩⟩ := Option.ite_none_right_eq_some.mp h
      exact .signed low
    · rw [channel?_of_ne_plus ha] at h
      obtain ⟨m, high, h⟩ := Option.bind_eq_some_iff.mp h
      obtain ⟨n, low, h⟩ := Option.bind_eq_some_iff.mp h
      obtain ⟨-, ⟨⟩⟩ := Option.ite_none_right_eq_some.mp h
      exact .digits high low
  · intro h
    cases h with
    | @digits _ _ m n high low =>
      have ha : a ≠ '+' := by
        rintro rfl
        exact Option.some_ne_none m (high.symm.trans (by decide))
      have hm := (hexUpper_of_hexValue? high).1
      have hn := (hexUpper_of_hexValue? low).1
      rw [channel?_of_ne_plus ha, high, low, Option.bind_some, Option.bind_some,
        if_pos (by omega)]
    | @signed _ n low =>
      have hn := (hexUpper_of_hexValue? low).1
      rw [channel?_plus, low, Option.bind_some, if_pos (by omega)]

lemma Channel.ascii (h : Channel a b value) : isAscii a = true ∧ isAscii b = true := by
  cases h with
  | digits high low => exact ⟨isAscii_of_hexValue? high, isAscii_of_hexValue? low⟩
  | signed low => exact ⟨by decide, isAscii_of_hexValue? low⟩

/-- The two digits of a channel are what is written for the characters that it was read from. -/
lemma Channel.channelDigits (h : Channel a b value) :
    channelDigits value = [writtenChar a, writtenChar b] := by
  cases h with
  | @digits _ _ m n high low =>
    obtain ⟨hm, hupper⟩ := hexUpper_of_hexValue? high
    obtain ⟨hn, hlower⟩ := hexUpper_of_hexValue? low
    have hvalue : (UInt8.ofNat (16 * m + n)).toNat = 16 * m + n :=
      UInt8.toNat_ofNat_of_lt' (show _ < 256 by omega)
    rw [Color.channelDigits, hvalue, ← hupper, ← hlower,
      show (16 * m + n) / 16 = m by omega, show (16 * m + n) % 16 = n by omega]
  | @signed _ n low =>
    obtain ⟨hn, hlower⟩ := hexUpper_of_hexValue? low
    have hvalue : (UInt8.ofNat n).toNat = n := UInt8.toNat_ofNat_of_lt' (show _ < 256 by omega)
    rw [Color.channelDigits, hvalue, ← hlower, show n / 16 = 0 by omega,
      show n % 16 = n by omega]
    rfl

end

lemma channel_channelDigits (value : UInt8) :
    ∃ a b, channelDigits value = [a, b] ∧ Channel a b value := by
  have hvalue := value.toNat_lt
  have hchannel := Channel.digits
    (Text.hexValue?_hexUpper (show value.toNat / 16 < 16 by omega))
    (Text.hexValue?_hexUpper (show value.toNat % 16 < 16 by omega))
  rw [show 16 * (value.toNat / 16) + value.toNat % 16 = value.toNat by omega,
    UInt8.ofNat_toNat] at hchannel
  exact ⟨_, _, rfl, hchannel⟩

/-- A full channel is written in only one way. -/
lemma channelDigits_eq_full_iff {value : UInt8} :
    channelDigits value = ['F', 'F'] ↔ value = 255 := by
  constructor
  · intro h
    obtain ⟨a, b, hdigits, hchannel⟩ := channel_channelDigits value
    rw [h] at hdigits
    cases hdigits
    have hfull : channel? ['F', 'F'] = some 255 := by decide
    rw [← channel?_eq_some_iff, hfull] at hchannel
    exact (Option.some.inj hchannel).symm
  · rintro rfl
    decide

/-! ### Cutting out channels -/

/-- Characters of one byte each. -/
lemma byteLength_of_ascii {cs : List Char} (h : cs.all isAscii = true) :
    byteLength cs = cs.length := by
  induction cs with
  | nil => rfl
  | cons c cs ih =>
    obtain ⟨hc, hcs⟩ := Bool.and_eq_true_iff.mp h
    have hone : c.utf8Size = 1 := by
      rw [Char.utf8Size_eq_one_iff, UInt32.le_iff_toNat_le]
      exact Nat.le_of_lt_succ (of_decide_eq_true hc)
    rw [Text.byteLength_cons, hone, ih hcs, List.length_cons, Nat.add_comm]

/-- Two characters among characters of one byte are the channel at their number. -/
lemma channelAt_eq (before after : List Char) {a b : Char}
    (h : (before ++ [a, b] ++ after).all isAscii = true) :
    channelAt (before ++ [a, b] ++ after) before.length = .mk (some (channel? [a, b])) := by
  rw [List.all_append, List.all_append, Bool.and_eq_true, Bool.and_eq_true] at h
  have hcut := Text.slice?_append before [a, b] after
  rw [byteLength_of_ascii h.1.1, byteLength_of_ascii h.1.2] at hcut
  exact congrArg (fun cut => OptionT.mk (cut.map channel?)) hcut

section

variable {r₁ r₂ g₁ g₂ b₁ b₂ a₁ a₂ : Char} {digits : List Char}

lemma run_ofDigits_three (hascii : [r₁, r₂, g₁, g₂, b₁, b₂].all isAscii = true) :
    (ofDigits [r₁, r₂, g₁, g₂, b₁, b₂]).run = some do
      return { red   := ← channel? [r₁, r₂]
               green := ← channel? [g₁, g₂]
               blue  := ← channel? [b₁, b₂] } := by
  have hred : channelAt [r₁, r₂, g₁, g₂, b₁, b₂] 0 = _ :=
    channelAt_eq [] [g₁, g₂, b₁, b₂] hascii
  have hgreen : channelAt [r₁, r₂, g₁, g₂, b₁, b₂] 2 = _ :=
    channelAt_eq [r₁, r₂] [b₁, b₂] hascii
  have hblue : channelAt [r₁, r₂, g₁, g₂, b₁, b₂] 4 = _ :=
    channelAt_eq [r₁, r₂, g₁, g₂] [] hascii
  have hlength : byteLength [r₁, r₂, g₁, g₂, b₁, b₂] = 6 := byteLength_of_ascii hascii
  rw [ofDigits, if_neg (not_not_intro hascii), hlength]
  simp only [hred, hgreen, hblue]
  cases channel? [r₁, r₂] <;> cases channel? [g₁, g₂] <;> cases channel? [b₁, b₂] <;> rfl

lemma run_ofDigits_four (hascii : [r₁, r₂, g₁, g₂, b₁, b₂, a₁, a₂].all isAscii = true) :
    (ofDigits [r₁, r₂, g₁, g₂, b₁, b₂, a₁, a₂]).run = some do
      return { red   := ← channel? [r₁, r₂]
               green := ← channel? [g₁, g₂]
               blue  := ← channel? [b₁, b₂]
               alpha := ← channel? [a₁, a₂] } := by
  have hred : channelAt [r₁, r₂, g₁, g₂, b₁, b₂, a₁, a₂] 0 = _ :=
    channelAt_eq [] [g₁, g₂, b₁, b₂, a₁, a₂] hascii
  have hgreen : channelAt [r₁, r₂, g₁, g₂, b₁, b₂, a₁, a₂] 2 = _ :=
    channelAt_eq [r₁, r₂] [b₁, b₂, a₁, a₂] hascii
  have hblue : channelAt [r₁, r₂, g₁, g₂, b₁, b₂, a₁, a₂] 4 = _ :=
    channelAt_eq [r₁, r₂, g₁, g₂] [a₁, a₂] hascii
  have halpha : channelAt [r₁, r₂, g₁, g₂, b₁, b₂, a₁, a₂] 6 = _ :=
    channelAt_eq [r₁, r₂, g₁, g₂, b₁, b₂] [] hascii
  have hlength : byteLength [r₁, r₂, g₁, g₂, b₁, b₂, a₁, a₂] = 8 := byteLength_of_ascii hascii
  rw [ofDigits, if_neg (not_not_intro hascii), hlength]
  simp only [hred, hgreen, hblue, halpha]
  cases channel? [r₁, r₂] <;> cases channel? [g₁, g₂] <;> cases channel? [b₁, b₂] <;>
    cases channel? [a₁, a₂] <;> rfl

/-- Digits that are not six or eight characters of one byte are no color. -/
lemma run_ofDigits_other (h : digits.all isAscii = true → digits.length ≠ 6 ∧ digits.length ≠ 8) :
    (ofDigits digits).run = some none := by
  rw [ofDigits]
  by_cases hascii : digits.all isAscii = true
  · obtain ⟨hsix, height⟩ := h hascii
    rw [if_neg (not_not_intro hascii), byteLength_of_ascii hascii]
    split
    · contradiction
    · contradiction
    · rfl
  · rw [if_pos hascii]
    rfl

/-! ### Reading -/

/-- What the digits behind the mark may be like. -/
inductive Shape : List Char → Prop where
  | three {r₁ r₂ g₁ g₂ b₁ b₂ : Char} (hascii : [r₁, r₂, g₁, g₂, b₁, b₂].all isAscii = true) :
      Shape [r₁, r₂, g₁, g₂, b₁, b₂]
  | four {r₁ r₂ g₁ g₂ b₁ b₂ a₁ a₂ : Char}
      (hascii : [r₁, r₂, g₁, g₂, b₁, b₂, a₁, a₂].all isAscii = true) :
      Shape [r₁, r₂, g₁, g₂, b₁, b₂, a₁, a₂]
  | other {digits : List Char}
      (h : digits.all isAscii = true → digits.length ≠ 6 ∧ digits.length ≠ 8) : Shape digits

lemma shape (digits : List Char) : Shape digits := by
  by_cases hascii : digits.all isAscii = true
  · by_cases hsix : digits.length = 6
    · match digits, hsix with
      | [_, _, _, _, _, _], _ => exact .three hascii
    · by_cases height : digits.length = 8
      · match digits, height with
        | [_, _, _, _, _, _, _, _], _ => exact .four hascii
      · exact .other fun _ => ⟨hsix, height⟩
  · exact .other fun h => absurd h hascii

/-- No cut goes outside of the digits or into a character. -/
lemma isSome_run_ofDigits (digits : List Char) : (ofDigits digits).run.isSome = true := by
  cases shape digits with
  | three hascii => rw [run_ofDigits_three hascii, Option.isSome_some]
  | four hascii => rw [run_ofDigits_four hascii, Option.isSome_some]
  | other h => rw [run_ofDigits_other h, Option.isSome_some]

lemma Form.ascii {c : Color} (h : Form c ('#' :: digits)) :
    digits.all isAscii = true ∧ (digits.length = 6 ∨ digits.length = 8) := by
  cases h with
  | three red green blue full =>
    exact ⟨by simp [red.ascii, green.ascii, blue.ascii], .inl rfl⟩
  | four red green blue alpha =>
    exact ⟨by simp [red.ascii, green.ascii, blue.ascii, alpha.ascii], .inr rfl⟩

lemma form_three_iff {c : Color} : Form c ['#', r₁, r₂, g₁, g₂, b₁, b₂] ↔
    Channel r₁ r₂ c.red ∧ Channel g₁ g₂ c.green ∧ Channel b₁ b₂ c.blue ∧ c.alpha = 255 := by
  constructor
  · intro h
    cases h with
    | three red green blue full => exact ⟨red, green, blue, full⟩
  · rintro ⟨red, green, blue, full⟩
    exact .three red green blue full

lemma form_four_iff {c : Color} : Form c ['#', r₁, r₂, g₁, g₂, b₁, b₂, a₁, a₂] ↔
    Channel r₁ r₂ c.red ∧ Channel g₁ g₂ c.green ∧ Channel b₁ b₂ c.blue ∧ Channel a₁ a₂ c.alpha := by
  constructor
  · intro h
    cases h with
    | four red green blue alpha => exact ⟨red, green, blue, alpha⟩
  · rintro ⟨red, green, blue, alpha⟩
    exact .four red green blue alpha

/-- Digits are read as a color if and only if they are a form of it behind the mark. -/
lemma run_ofDigits_eq_iff {c : Color} :
    (ofDigits digits).run = some (some c) ↔ Form c ('#' :: digits) := by
  obtain ⟨red, green, blue, alpha⟩ := c
  cases shape digits with
  | three hascii =>
    rw [run_ofDigits_three hascii, form_three_iff]
    simpa [Option.bind_eq_some_iff, channel?_eq_some_iff] using fun _ _ _ => eq_comm
  | four hascii =>
    rw [run_ofDigits_four hascii, form_four_iff]
    simp [Option.bind_eq_some_iff, channel?_eq_some_iff]
  | other h =>
    rw [run_ofDigits_other h]
    constructor
    · intro hread
      cases hread
    · intro hform
      obtain ⟨hascii, hlength⟩ := hform.ascii
      have := h hascii
      omega

end

theorem isSome_read? (s : String) : (read? s).isSome = true := by
  unfold read?
  split
  case h_1 digits _ => exact isSome_run_ofDigits digits
  case h_2 => rfl

/-- A text is read as a color if and only if it is a form of it. -/
theorem ofHex?_eq_some_iff {s : String} {c : Color} : ofHex? s = some c ↔ Form c s.toList := by
  have hread : ofHex? s = some c ↔ read? s = some (some c) := by
    rw [ofHex?, Option.getD_eq_iff]
    simp
  rw [hread]
  unfold read?
  split
  case h_1 digits heq => rw [heq, run_ofDigits_eq_iff]
  case h_2 hmark =>
    constructor
    · intro h
      cases h
    · intro h
      generalize s.toList = text at h hmark
      cases h with
      | three => exact absurd rfl (hmark _)
      | four => exact absurd rfl (hmark _)

/-! ### Writing -/

lemma toList_toHex_of_full {c : Color} (h : c.alpha = 255) :
    c.toHex.toList
      = '#' :: (channelDigits c.red ++ channelDigits c.green ++ channelDigits c.blue) := by
  rw [toHex, String.toList_ofList, if_pos h, List.append_nil]

lemma toList_toHex_of_not_full {c : Color} (h : c.alpha ≠ 255) :
    c.toHex.toList = '#' :: (channelDigits c.red ++ channelDigits c.green ++ channelDigits c.blue
      ++ channelDigits c.alpha) := by
  rw [toHex, String.toList_ofList, if_neg h]

lemma form_toHex (c : Color) : Form c c.toHex.toList := by
  obtain ⟨r₁, r₂, hr, red⟩ := channel_channelDigits c.red
  obtain ⟨g₁, g₂, hg, green⟩ := channel_channelDigits c.green
  obtain ⟨b₁, b₂, hb, blue⟩ := channel_channelDigits c.blue
  obtain ⟨a₁, a₂, ha, alpha⟩ := channel_channelDigits c.alpha
  by_cases full : c.alpha = 255
  · rw [toList_toHex_of_full full, hr, hg, hb]
    exact .three red green blue full
  · rw [toList_toHex_of_not_full full, hr, hg, hb, ha]
    exact .four red green blue alpha

/-- Whichever form a color was read from, it is written in the same way. -/
lemma Form.written {c : Color} {form : List Char} (h : Form c form) :
    c.toHex.toList = written form := by
  cases h with
  | three red green blue full =>
    rw [toList_toHex_of_full full, red.channelDigits, green.channelDigits, blue.channelDigits]
    rfl
  | four red green blue alpha =>
    have hmark : writtenChar '#' = '#' := by decide
    by_cases full : c.alpha = 255
    · have hfull := channelDigits_eq_full_iff.mpr full
      rw [alpha.channelDigits] at hfull
      rw [toList_toHex_of_full full, red.channelDigits, green.channelDigits, blue.channelDigits]
      simp [Color.written, hfull, hmark]
    · have hfull := mt channelDigits_eq_full_iff.mp full
      rw [alpha.channelDigits] at hfull
      rw [toList_toHex_of_not_full full, red.channelDigits, green.channelDigits,
        blue.channelDigits, alpha.channelDigits]
      simp [Color.written, hfull, hmark]

/-! ### The laws -/

/-- How colors and their forms go together. -/
structure HexLaws : Prop where
  /-- A written color is read back, and so is its JSON text. -/
  readBack  : ∀ c : Color, ofHex? c.toHex = some c
  json      : ∀ c : Color, ofJson c.toJson = .ok c
  /-- What is read as a color is a form of it, and nothing else is. -/
  forms     : ∀ (s : String) (c : Color), ofHex? s = some c ↔ Form c s.toList
  /-- In no text does a cut go outside or into a character. -/
  cuts      : ∀ s : String, read? s = some (ofHex? s)
  /-- The form of which a color was read tells the one in which it is written. -/
  rewritten : ∀ (s : String) (c : Color), ofHex? s = some c → c.toHex.toList = written s.toList

theorem hexLaws : HexLaws := by
  constructor
  case readBack => exact fun c => ofHex?_eq_some_iff.mpr (form_toHex c)
  case json =>
    intro c
    obtain ⟨v, hv, hvalue, hrest⟩ := Json.gives_aString "a string" c.toHex
    refine Json.readAll_of_gives ?_
    rw [toJson, String.toList_ofList]
    have hcolor : ofHex? v.value = some c := by
      rw [hvalue]
      exact ofHex?_eq_some_iff.mpr (form_toHex c)
    simp only [reader, hv, hcolor]
    exact ⟨_, rfl, rfl, hrest⟩
  case forms => exact fun s c => ofHex?_eq_some_iff
  case cuts =>
    intro s
    obtain ⟨c?, hread⟩ := Option.isSome_iff_exists.mp (isSome_read? s)
    rw [ofHex?, hread, Option.getD_some]
  case rewritten => exact fun s c h => (ofHex?_eq_some_iff.mp h).written

/-- A plus sign counts as a zero, and two characters of two bytes are no channel. -/
example : ofHex? "#+f0A+0fF" = some { red := 15, green := 10, blue := 0 } ∧
    read? "#\u00c4\u00c4\u00c4" = some none := by decide

end DebugConsole.Color
