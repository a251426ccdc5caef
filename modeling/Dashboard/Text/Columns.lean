import Dashboard.Text.Ranges
import Dashboard.Text.Table.Columns
import Dashboard.Text.Table.Emoji

/-! # Terminal columns

A character takes no, one or two columns; controls have no width of their own.
A text takes the sum over its characters except where they combine: emoji
sequences, line ends and a few ligatures. A text is measured from its end, each
character in the context of what follows it. -/

namespace Dashboard.Text

/-- Columns of a character on its own; none for controls. -/
def charColumns? (c : Char) : Option Nat :=
  let code := c.toNat
  if code < 0x20 ∨ (0x7F ≤ code ∧ code < 0xA0) then none
  else if code < 0x7F then some 1
  else if code = 0x17D8 then some 3
  else if code = 0x17A4 then some 2
  else if inRanges zeroColumnRanges c then some 0
  else if inRanges wideRanges c then some 2
  else some 1

/-- What the text after a character starts with, as far as it matters to the
width of that character. -/
inductive Follower where
  | other
  | lineFeed
  | emoji
  | emojiModifier
  | regionalIndicator
  | regionalIndicators
  /-- A joiner and an emoji. -/
  | joinedEmoji
  /-- A keycap mark, a joiner and an emoji. -/
  | joinedKeycap
  /-- A regional indicator, a joiner and an emoji. -/
  | joinedIndicator
  /-- An even number of regional indicators, a joiner and an emoji. -/
  | joinedIndicatorsEven
  /-- An odd number of regional indicators, a joiner and an emoji. -/
  | joinedIndicatorsOdd
  /-- A sequence of tag letters or digits closed by a tag end, a joiner and an
  emoji. -/
  | tagLetters (count : Nat)
  | tagDigits (count : Nat)
  | alef
  | lamed (joined : Bool)
  | bugineseYa (joined : Bool)
  | bugineseVowelYa
  | tifinagh (joined : Bool)
  | tifinaghJoiner
  | lisuTone
  | orkhonI (joined : Bool)
  | coengLetter
  | kiratE
  | kiratAi
deriving DecidableEq

namespace Follower

/-- Whether a ligature may start before this follower; variation selectors are
looked through. -/
def isLigature : Follower → Bool
  | alef | lamed _ | bugineseYa _ | bugineseVowelYa | tifinagh _ | tifinaghJoiner | lisuTone
  | orkhonI _ | coengLetter | kiratE | kiratAi => true
  | _ => false

/-- Whether marks that are ignored by default leave the ligature open. -/
def seesThroughMarks : Follower → Bool
  | alef => false
  | follower => follower.isLigature

/-- Whether an emoji base may be joined to the emoji of this follower. -/
def isJoined : Follower → Bool
  | joinedEmoji | joinedKeycap => true
  | _ => false

/-- A joiner before this follower. -/
def join : Follower → Follower
  | lamed _ => lamed true
  | bugineseYa _ => bugineseYa true
  | tifinagh _ => tifinagh true
  | orkhonI _ => orkhonI true
  | follower => follower

end Follower

/-- The text after a character: what it starts with, and whether a variation
selector for emoji or text style comes first. -/
structure Context where
  follower : Follower
  emojiStyle : Bool
  textStyle : Bool
deriving DecidableEq

namespace Context

/-- No variation selector in front. -/
def of (follower : Follower) : Context := ⟨follower, false, false⟩

/-- The end of a text. -/
def none : Context := of .other

/-- An emoji-style selector in front. -/
def withEmojiStyle (context : Context) : Context :=
  if context.follower.isLigature then { context with emojiStyle := true }
  else if context.follower.isJoined && !context.emojiStyle then ⟨context.follower, true, false⟩
  else ⟨.other, true, false⟩

/-- A text-style selector in front. -/
def withTextStyle (context : Context) : Context :=
  if context.follower.isLigature then { context with textStyle := true }
  else ⟨.other, false, true⟩

/-- The context left when the character in front is no emoji base. -/
def withoutEmojiStyle (context : Context) : Context :=
  if context.follower.isLigature then { context with emojiStyle := false } else none

end Context

/-- Whether a character can take emoji style. -/
def isEmojiBase (c : Char) : Bool :=
  inRanges emojiBaseRanges c

/-- Whether a character between two others is ignored when they form a
ligature: a mark that is ignored by default. -/
def isIgnoredMark (c : Char) : Bool :=
  inRanges [(0x034F, 0x034F), (0x17B4, 0x17B5), (0x180B, 0x180D), (0x180F, 0x180F),
    (0x200D, 0x200D), (0xFE00, 0xFE0F), (0xE0100, 0xE01EF)] c

/-- Whether a character is skipped between a lam and an alef. -/
def isTransparent (c : Char) : Bool :=
  inRanges zeroColumnRanges c &&
    !inRanges [(0x0600, 0x0605), (0x1160, 0x11FF), (0x200C, 0x200D), (0xD7B0, 0xD7FB)] c

/-- Whether a character is a regional indicator. -/
def isRegionalIndicator (c : Char) : Bool :=
  inRanges [(0x1F1E6, 0x1F1FF)] c

/-- Whether a character changes the skin tone of the emoji before it. -/
def isEmojiModifier (c : Char) : Bool :=
  inRanges [(0x1F3FB, 0x1F3FF)] c

/-- Whether a character is an emoji without further marks. -/
def isEmoji (c : Char) : Bool :=
  inRanges emojiPresentationRanges c

/-- Whether a character joins consonants of its script in pairs. -/
def isTifinaghConsonant (c : Char) : Bool :=
  inRanges [(0x2D31, 0x2D65), (0x2D6F, 0x2D6F)] c

/-- Whether a letter takes a subscript form after a coeng sign. -/
def isCoengLetter (c : Char) : Bool :=
  inRanges [(0x1780, 0x1782), (0x1784, 0x1787), (0x1789, 0x178C), (0x178E, 0x1793),
    (0x1795, 0x1798), (0x179B, 0x179D), (0x17A0, 0x17A0), (0x17A2, 0x17A2), (0x17A7, 0x17A7),
    (0x17AB, 0x17AC), (0x17AF, 0x17AF)] c

/-- The follower a character is to the one before it. -/
def followerOf (c : Char) : Follower :=
  if isEmoji c then .emoji
  else if isEmojiModifier c then .emojiModifier
  else if isRegionalIndicator c then .regionalIndicator
  else if inRanges [(0x0622, 0x0623), (0x0625, 0x0625), (0x0627, 0x0627), (0x0671, 0x0673),
      (0x0675, 0x0675), (0x0773, 0x0774), (0x0870, 0x0882)] c then .alef
  else if c = '\u05DC' then .lamed false
  else if c = '\u1A10' then .bugineseYa false
  else if isTifinaghConsonant c then .tifinagh false
  else if inRanges [(0xA4FC, 0xA4FD)] c then .lisuTone
  else if c = Char.ofNat 0x10C03 then .orkhonI false
  else if isCoengLetter c then .coengLetter
  else if c = Char.ofNat 0x16D67 then .kiratE
  else if c = Char.ofNat 0x16D68 then .kiratAi
  else .other

/-- Columns a character takes on its own, and the context it makes. -/
def measureAlone (c : Char) : Int × Context :=
  if c = '\uFE0F' then (0, ⟨.other, true, false⟩)
  else if c = '\uFE0E' then (0, ⟨.other, false, true⟩)
  else ((charColumns? c).getD 1, .of (followerOf c))

/-- Columns added by a character that combines with its follower, and what it
then is to the one before it. -/
def combine? (follower : Follower) (c : Char) : Option (Int × Follower) :=
  let isTagLetter := inRanges [(0xE0061, 0xE007A)] c
  let isTagDigit := inRanges [(0xE0030, 0xE0039)] c
  let isFlag := c = Char.ofNat 0x1F3F4
  match follower with
  | .alef =>
    if inRanges [(0x0644, 0x0644), (0x06B5, 0x06B8), (0x076A, 0x076A), (0x08A6, 0x08A6),
        (0x08C7, 0x08C7)] c then some (0, .other)
    else if isTransparent c then some (0, .alef)
    else none
  | .lamed true => if c = '\u05D0' then some (0, .other) else none
  | .coengLetter => if c = '\u17D2' then some (-1, .other) else none
  | .bugineseYa true => if c = '\u1A17' then some (0, .bugineseVowelYa) else none
  | .bugineseVowelYa => if c = '\u1A15' then some (0, .other) else none
  | .tifinagh joined =>
    if c = '\u2D7F' then some (1, .tifinaghJoiner)
    else if joined && isTifinaghConsonant c then some (0, .other)
    else none
  | .tifinaghJoiner => if isTifinaghConsonant c then some (-1, .other) else none
  | .lisuTone => if inRanges [(0xA4F8, 0xA4FB)] c then some (0, .other) else none
  | .orkhonI true => if c = Char.ofNat 0x10C32 then some (0, .other) else none
  | .kiratE =>
    if c = Char.ofNat 0x16D63 ∨ c = Char.ofNat 0x16D69 then some (0, .other)
    else if c = Char.ofNat 0x16D67 then some (0, .kiratAi)
    else if c = Char.ofNat 0x16D68 then some (1, .kiratE)
    else none
  | .kiratAi => if c = Char.ofNat 0x16D63 then some (0, .other) else none
  | .emojiModifier =>
    if inRanges modifierBaseRanges c then some (0, .emoji)
    else if c = '\u200D' then some (0, .joinedEmoji)
    else none
  | .regionalIndicator => if isRegionalIndicator c then some (1, .regionalIndicators) else none
  | .regionalIndicators =>
    if isRegionalIndicator c then some (1, .regionalIndicators)
    else if c = '\u200D' then some (0, .joinedEmoji)
    else none
  | .emoji => if c = '\u200D' then some (0, .joinedEmoji) else none
  | .joinedEmoji =>
    if c = '\u20E3' then some (0, .joinedKeycap)
    else if isRegionalIndicator c then some (1, .joinedIndicator)
    else if isEmojiModifier c then some (0, .emojiModifier)
    else if c = Char.ofNat 0xE007F then some (0, .tagLetters 0)
    else if isEmoji c then some (0, .emoji)
    else none
  | .joinedIndicator => if isRegionalIndicator c then some (-1, .joinedIndicatorsEven) else none
  | .joinedIndicatorsOdd =>
    if isRegionalIndicator c then some (-1, .joinedIndicatorsEven)
    else if c = '\u200D' then some (0, .joinedEmoji)
    else none
  | .joinedIndicatorsEven =>
    if isRegionalIndicator c then some (3, .joinedIndicatorsOdd)
    else if c = '\u200D' then some (0, .joinedEmoji)
    else none
  | .tagLetters count =>
    if isTagLetter ∧ count < 6 then some (0, .tagLetters (count + 1))
    else if isTagDigit ∧ count < 5 then some (0, .tagDigits 1)
    else if isFlag ∧ 3 ≤ count then some (0, .emoji)
    else none
  | .tagDigits count =>
    if isTagDigit ∧ count < 3 then some (0, .tagDigits (count + 1))
    else if isFlag ∧ count = 3 then some (0, .emoji)
    else none
  | _ => none

/-- Columns a character adds before a context, and the context it makes. -/
def measure (c : Char) (context : Context) : Int × Context :=
  if context.emojiStyle && isEmojiBase c then
    (if context.follower.isJoined then 0 else 2, .of .emoji)
  else
    let context := if context.emojiStyle then context.withoutEmojiStyle else context
    if c.toNat ≤ 0xA0 then
      if c = '\n' then (1, .of .lineFeed)
      else if c = '\r' ∧ context = .of .lineFeed then (0, .none)
      else (1, .none)
    else if context = .none then measureAlone c
    else if c = '\uFE0F' then (0, context.withEmojiStyle)
    else if c = '\uFE0E' then (0, context.withTextStyle)
    else if context.textStyle && inRanges textBaseRanges c then (1, .none)
    else
      let context := { context with textStyle := false }
      if context.follower.seesThroughMarks && c = '\u200D' then (0, .of context.follower.join)
      else if context.follower.seesThroughMarks && isIgnoredMark c then (0, context)
      else
        match combine? context.follower c with
        | some (columns, follower) => (columns, .of follower)
        | none => measureAlone c

/-- Columns of a text and the context it makes for what stands before it. -/
def measureText : List Char → Int × Context
  | [] => (0, .none)
  | c :: rest =>
    let (columns, context) := measureText rest
    let (added, context) := measure c context
    (columns + added, context)

/-- Columns of a text. -/
def textColumns (text : String) : Nat :=
  (measureText text.toList).1.toNat

end Dashboard.Text
