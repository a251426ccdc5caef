import Dashboard.Colour
import Mathlib.Data.List.TakeWhile
import Mathlib.Data.Nat.Notation

/-! # Spelling of colours

A colour is spelled by six hexadecimal digits, with a hash sign in front or without. Reading
accepts each such text and gives the colour it spells. It also accepts any number of hash
signs, and a plus sign in place of the first digit of a channel. -/

namespace Dashboard.Rgb

/-! ## Digits -/

/-- The hexadecimal digits in order of their values. -/
def hexDigits : List Char :=
  ['0', '1', '2', '3', '4', '5', '6', '7', '8', '9', 'a', 'b', 'c', 'd', 'e', 'f']

/-- Whether a character is a hexadecimal digit in either case. -/
def IsHexDigit (c : Char) : Prop :=
  c.toLower ∈ hexDigits

instance (c : Char) : Decidable (IsHexDigit c) :=
  inferInstanceAs (Decidable (_ ∈ _))

/-- Value of a hexadecimal digit. -/
def hexValue (c : Char) : ℕ :=
  hexDigits.idxOf c.toLower

theorem hexValue_lt {c : Char} (h : IsHexDigit c) : hexValue c < 16 :=
  List.idxOf_lt_length_of_mem h

theorem hexDigit?_ofNat : ∀ code < 128, hexDigit? (Char.ofNat code) =
    if IsHexDigit (Char.ofNat code) then some (hexValue (Char.ofNat code)) else none := by
  decide +kernel

theorem toNat_lt_of_isHexDigit {c : Char} (h : IsHexDigit c) : c.toNat < 128 := by
  by_contra hlarge
  have hsame : c.toLower = c := by
    refine dif_neg ?_
    rintro ⟨-, hcapital⟩
    have : c.toNat ≤ 90 := hcapital
    omega
  have hdigits : hexDigits.all (fun digit => digit.toNat < 128) = true := by decide
  rw [IsHexDigit, hsame] at h
  exact hlarge (of_decide_eq_true (List.all_eq_true.mp hdigits c h))

theorem hexDigit?_of_large {c : Char} (h : 128 ≤ c.toNat) : hexDigit? c = none := by
  have hle : ∀ bound : Char, bound.toNat < 128 → ¬ c ≤ bound := by
    intro bound hbound hc
    have : c.toNat ≤ bound.toNat := hc
    omega
  have hdigit : ¬ c.isDigit = true := by
    rw [Char.isDigit, Bool.and_eq_true]
    exact fun hrange => hle '9' (by decide) (of_decide_eq_true hrange.2)
  rw [hexDigit?, if_neg hdigit, if_neg fun hrange => hle 'f' (by decide) hrange.2,
    if_neg fun hrange => hle 'F' (by decide) hrange.2]

theorem hexDigit?_eq_some_iff {c : Char} {value : ℕ} :
    hexDigit? c = some value ↔ IsHexDigit c ∧ hexValue c = value := by
  by_cases hascii : c.toNat < 128
  · have hdigit := hexDigit?_ofNat c.toNat hascii
    rw [Char.ofNat_toNat] at hdigit
    rw [hdigit]
    split <;> simp_all
  · rw [hexDigit?_of_large (by omega)]
    exact ⟨nofun, fun h => absurd (toNat_lt_of_isHexDigit h.1) hascii⟩

/-! ## Channels -/

/-- Two hexadecimal digits that give a channel in base sixteen. -/
structure SpellsChannel (high low : Char) (channel : UInt8) : Prop where
  isHexDigit_high : IsHexDigit high
  isHexDigit_low : IsHexDigit low
  toNat_eq : channel.toNat = 16 * hexValue high + hexValue low

/-- Two characters that are read as a channel: two digits, or a plus sign and a digit. -/
def ReadsChannel (high low : Char) (channel : UInt8) : Prop :=
  SpellsChannel high low channel ∨ high = '+' ∧ SpellsChannel '0' low channel

theorem spellsChannel_iff {high low : Char} {channel : UInt8} :
    SpellsChannel high low channel ↔
      ∃ h l, hexDigit? high = some h ∧ hexDigit? low = some l ∧
        UInt8.ofNat (16 * h + l) = channel := by
  simp only [hexDigit?_eq_some_iff]
  constructor
  · rintro ⟨hhigh, hlow, hvalue⟩
    refine ⟨_, _, ⟨hhigh, rfl⟩, ⟨hlow, rfl⟩, ?_⟩
    rw [← hvalue, UInt8.ofNat_toNat]
  · rintro ⟨_, _, ⟨hhigh, rfl⟩, ⟨hlow, rfl⟩, rfl⟩
    have hhighlt := hexValue_lt hhigh
    have hlowlt := hexValue_lt hlow
    refine ⟨hhigh, hlow, ?_⟩
    rw [UInt8.toNat_ofNat']
    omega

theorem channel?_eq_some_iff {high low : Char} {channel : UInt8} :
    channel? high low = some channel ↔ ReadsChannel high low channel := by
  have hzero : hexDigit? '0' = some 0 := rfl
  rw [ReadsChannel, spellsChannel_iff, spellsChannel_iff, channel?]
  by_cases hhigh : high = '+'
  · subst hhigh
    have hnone : hexDigit? '+' = none := rfl
    simp [hzero, hnone, Option.bind_eq_some_iff]
  · simp [hhigh, Option.bind_eq_some_iff]

/-! ## Colours -/

/-- Six characters for the three channels of a colour, two for each in a given way. -/
inductive SixSpell (spells : Char → Char → UInt8 → Prop) : List Char → Rgb → Prop
  | intro {a b c d e f : Char} {red green blue : UInt8} (hred : spells a b red)
      (hgreen : spells c d green) (hblue : spells e f blue) :
      SixSpell spells [a, b, c, d, e, f] ⟨red, green, blue⟩

/-- A text that spells a colour as documented: six digits after at most one hash sign, with
white space around. -/
def Spells (text : String) (colour : Rgb) : Prop :=
  ∃ hash digits, (hash = [] ∨ hash = ['#']) ∧ Text.trim text.toList = hash ++ digits ∧
    SixSpell SpellsChannel digits colour

/-- A text that is read as a colour. -/
def Reads (text : String) (colour : Rgb) : Prop :=
  ∃ hashes digits, Text.trim text.toList = List.replicate hashes '#' ++ digits ∧
    SixSpell ReadsChannel digits colour

theorem ReadsChannel.isAscii {high low : Char} {channel : UInt8}
    (h : ReadsChannel high low channel) : high.toNat < 0x80 ∧ low.toNat < 0x80 := by
  rcases h with hdigits | ⟨rfl, hdigit⟩
  · exact ⟨toNat_lt_of_isHexDigit hdigits.isHexDigit_high,
      toNat_lt_of_isHexDigit hdigits.isHexDigit_low⟩
  · exact ⟨by decide, toNat_lt_of_isHexDigit hdigit.isHexDigit_low⟩

theorem ReadsChannel.ne_hash {high low : Char} {channel : UInt8}
    (h : ReadsChannel high low channel) : high ≠ '#' := by
  rintro rfl
  rcases h with hdigits | ⟨hplus, -⟩
  · exact absurd hdigits.isHexDigit_high (by decide)
  · exact absurd hplus (by decide)

/-- What is read begins after all of the hash signs. -/
def afterHashes (text : String) : List Char :=
  (Text.trim text.toList).dropWhile (· = '#')

theorem afterHashes_of_sixSpell {text : String} {hashes : ℕ} {digits : List Char} {colour : Rgb}
    (htext : Text.trim text.toList = List.replicate hashes '#' ++ digits)
    (h : SixSpell ReadsChannel digits colour) : afterHashes text = digits := by
  rw [afterHashes, htext]
  obtain ⟨hred, -, -⟩ := h
  clear htext
  induction hashes with
  | zero => simp [hred.ne_hash]
  | succ hashes ih => simpa [List.replicate_succ] using ih

theorem exists_hashes (text : String) :
    ∃ hashes, Text.trim text.toList = List.replicate hashes '#' ++ afterHashes text := by
  let signs := (Text.trim text.toList).takeWhile (· = '#')
  have hsigns : signs = List.replicate signs.length '#' := by
    apply List.eq_replicate_of_mem
    exact fun c hc => of_decide_eq_true (List.mem_takeWhile_imp (p := (decide <| · = '#')) hc)
  refine ⟨signs.length, ?_⟩
  rw [← hsigns, afterHashes, List.takeWhile_append_dropWhile]

theorem ofHex_of_sixSpell {text : String} {colour : Rgb}
    (h : SixSpell ReadsChannel (afterHashes text) colour) : ofHex text = .ok colour := by
  rw [ofHex, ← afterHashes]
  generalize afterHashes text = digits at h ⊢
  obtain ⟨hred, hgreen, hblue⟩ := h
  simp only [List.all_cons, List.all_nil, hred.isAscii, hgreen.isAscii, hblue.isAscii,
    channel?_eq_some_iff.mpr hred, channel?_eq_some_iff.mpr hgreen,
    channel?_eq_some_iff.mpr hblue]
  rfl

theorem sixSpell_of_ofHex {text : String} {colour : Rgb} (h : ofHex text = .ok colour) :
    SixSpell ReadsChannel (afterHashes text) colour := by
  rw [ofHex, ← afterHashes] at h
  split at h
  · next a b c d e f hdigits =>
    rw [hdigits]
    split at h
    · split at h
      · next red green blue hred hgreen hblue =>
        injection h with h
        subst h
        exact ⟨channel?_eq_some_iff.mp hred, channel?_eq_some_iff.mp hgreen,
          channel?_eq_some_iff.mp hblue⟩
      · cases h
    · cases h
  · cases h

theorem ofHex_eq_ok_iff {text : String} {colour : Rgb} :
    ofHex text = .ok colour ↔ Reads text colour := by
  constructor
  · intro h
    obtain ⟨hashes, htext⟩ := exists_hashes text
    exact ⟨hashes, _, htext, sixSpell_of_ofHex h⟩
  · rintro ⟨hashes, digits, htext, hdigits⟩
    apply ofHex_of_sixSpell
    rwa [afterHashes_of_sixSpell htext hdigits]

theorem input_of_ofHex {text : String} {error : HexError} (h : ofHex text = .error error) :
    error.input = text := by
  rw [ofHex] at h
  split at h
  · split at h
    · split at h
      · cases h
      · injection h with h
        rw [← h]
    · injection h with h
      rw [← h]
  · injection h with h
    rw [← h]

/-! ## Documented spellings -/

theorem SpellsChannel.ne_plus {high low : Char} {channel : UInt8}
    (h : SpellsChannel high low channel) : high ≠ '+' ∧ low ≠ '+' := by
  constructor <;> rintro rfl
  · exact absurd h.isHexDigit_high (by decide)
  · exact absurd h.isHexDigit_low (by decide)

theorem ReadsChannel.spells {high low : Char} {channel : UInt8}
    (h : ReadsChannel high low channel) (hplus : high ≠ '+') : SpellsChannel high low channel :=
  h.resolve_right fun hsigned => hplus hsigned.1

theorem sixSpell_spells_iff {digits : List Char} {colour : Rgb} :
    SixSpell SpellsChannel digits colour ↔
      SixSpell ReadsChannel digits colour ∧ '+' ∉ digits := by
  constructor
  · rintro ⟨hred, hgreen, hblue⟩
    refine ⟨⟨.inl hred, .inl hgreen, .inl hblue⟩, ?_⟩
    simp [hred.ne_plus, hgreen.ne_plus, hblue.ne_plus, eq_comm (a := '+')]
  · rintro ⟨⟨hred, hgreen, hblue⟩, hplus⟩
    simp only [List.mem_cons, not_or] at hplus
    exact ⟨hred.spells (Ne.symm hplus.1), hgreen.spells (Ne.symm hplus.2.2.1),
      hblue.spells (Ne.symm hplus.2.2.2.2.1)⟩

/-- Two hash signs in front are told from one by what is read after them. -/
theorem hashes_le_one_iff {hashes : ℕ} {digits : List Char} {colour : Rgb}
    (h : SixSpell ReadsChannel digits colour) :
    hashes ≤ 1 ↔ ¬ ['#', '#'] <+: List.replicate hashes '#' ++ digits := by
  obtain ⟨hred, -, -⟩ := h
  match hashes with
  | 0 => simp [Ne.symm hred.ne_hash]
  | 1 => simp [Ne.symm hred.ne_hash]
  | hashes + 2 => simp [List.replicate_succ]

theorem spells_iff {text : String} {colour : Rgb} :
    Spells text colour ↔ ofHex text = .ok colour ∧
      ¬ ['#', '#'] <+: Text.trim text.toList ∧ '+' ∉ Text.trim text.toList := by
  rw [ofHex_eq_ok_iff]
  constructor
  · rintro ⟨hash, digits, hhash, htext, hspells⟩
    obtain ⟨hreads, hplus⟩ := sixSpell_spells_iff.mp hspells
    obtain ⟨hashes, hle, rfl⟩ : ∃ hashes ≤ 1, hash = List.replicate hashes '#' := by
      rcases hhash with rfl | rfl
      · exact ⟨0, by decide, rfl⟩
      · exact ⟨1, by decide, rfl⟩
    refine ⟨⟨hashes, digits, htext, hreads⟩, ?_, ?_⟩
    · rw [htext]
      exact (hashes_le_one_iff hreads).mp hle
    · simp [htext, hplus]
  · rintro ⟨⟨hashes, digits, htext, hreads⟩, hhash, hplus⟩
    rw [htext] at hhash hplus
    have hle := (hashes_le_one_iff hreads).mpr hhash
    refine ⟨_, digits, ?_, htext,
      sixSpell_spells_iff.mpr ⟨hreads, fun hmem => hplus (List.mem_append_right _ hmem)⟩⟩
    obtain rfl | rfl : hashes = 0 ∨ hashes = 1 := by omega
    · exact .inl rfl
    · exact .inr rfl

/-! ## Shown colours -/

/-- The digit of a value. -/
def digitOf (value : ℕ) : Char :=
  hexDigits.getD value '0'

theorem digitOf_spec : ∀ value < 16, IsHexDigit (digitOf value) ∧
    hexValue (digitOf value) = value ∧ Text.isBlank (digitOf value) = false := by
  decide

/-- A channel is shown by the digits of its value in base sixteen. -/
theorem channelText_ofNat : ∀ value < 256,
    channelText (UInt8.ofNat value) = [digitOf (value / 16), digitOf (value % 16)] := by
  decide +kernel

theorem spellsChannel_channelText (channel : UInt8) :
    ∃ high low, channelText channel = [high, low] ∧ SpellsChannel high low channel ∧
      Text.isBlank low = false := by
  have hlt := UInt8.toNat_lt channel
  have htext := channelText_ofNat channel.toNat hlt
  obtain ⟨hhigh, hhighvalue, -⟩ := digitOf_spec (channel.toNat / 16) (by omega)
  obtain ⟨hlow, hlowvalue, hblank⟩ := digitOf_spec (channel.toNat % 16) (by omega)
  rw [UInt8.ofNat_toNat] at htext
  refine ⟨_, _, htext, ⟨hhigh, hlow, ?_⟩, hblank⟩
  rw [hhighvalue, hlowvalue]
  omega

theorem trim_of_ends {first last : Char} (middle : List Char)
    (hfirst : Text.isBlank first = false)
    (hlast : Text.isBlank last = false) :
    Text.trim (first :: (middle ++ [last])) = first :: (middle ++ [last]) := by
  simp [Text.trim, hfirst, hlast]

theorem spells_text (colour : Rgb) : Spells colour.text colour := by
  obtain ⟨a, b, hred, hspellsRed, -⟩ := spellsChannel_channelText colour.red
  obtain ⟨c, d, hgreen, hspellsGreen, -⟩ := spellsChannel_channelText colour.green
  obtain ⟨e, f, hblue, hspellsBlue, hlast⟩ := spellsChannel_channelText colour.blue
  refine ⟨['#'], [a, b, c, d, e, f], .inr rfl, ?_, ⟨hspellsRed, hspellsGreen, hspellsBlue⟩⟩
  rw [text, String.toList_ofList, hred, hgreen, hblue]
  exact trim_of_ends [a, b, c, d, e] (by decide) hlast

/-- A text is read as a colour exactly if six characters that spell its channels follow any
number of hash signs, a plus sign standing for a first digit that is zero; any other text is
an error that holds it. The documented spellings are the accepted texts without a second hash
sign and without plus signs, and the text that shows a colour is one of them. -/
theorem ofHex_spells (text : String) :
    (∀ colour, ofHex text = .ok colour ↔ Reads text colour) ∧
      ((∀ colour, ¬ Reads text colour) ↔ ∃ fault, ofHex text = .error ⟨text, fault⟩) ∧
      (∀ colour, Spells text colour ↔ ofHex text = .ok colour ∧
        ¬ ['#', '#'] <+: Text.trim text.toList ∧ '+' ∉ Text.trim text.toList) ∧
      ∀ colour : Rgb, Spells colour.text colour ∧ ofHex colour.text = .ok colour := by
  refine ⟨fun colour => ofHex_eq_ok_iff, ?_, fun colour => spells_iff, fun colour => ?_⟩
  · constructor
    · intro hnone
      cases hread : ofHex text with
      | ok colour => exact absurd (ofHex_eq_ok_iff.mp hread) (hnone colour)
      | error error => exact ⟨error.fault, by rw [← input_of_ofHex hread]⟩
    · rintro ⟨fault, herror⟩ colour hreads
      rw [ofHex_eq_ok_iff.mpr hreads] at herror
      cases herror
  · have hspells := spells_text colour
    exact ⟨hspells, (spells_iff.mp hspells).1⟩

/-- A plus sign is read as a digit. -/
theorem exists_ofHex_not_spells :
    ¬ ∀ (text : String) (colour : Rgb), ofHex text = .ok colour → Spells text colour := by
  intro h
  have hread : ofHex "+1+2+3" = .ok ⟨1, 2, 3⟩ := by decide +kernel
  have hplus : '+' ∈ Text.trim "+1+2+3".toList := by decide +kernel
  exact (spells_iff.mp (h "+1+2+3" ⟨1, 2, 3⟩ hread)).2.2 hplus

end Dashboard.Rgb
