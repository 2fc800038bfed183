import RouterMenu.Text.Combining
import RouterMenu.Text.ColumnTables

/-!
# How many columns a line of text takes

Characters are mostly worth one, two or no columns each, but some sequences are drawn as one
shape: an emoji with a selector, a skin tone or joined to others, a flag of two letters, a lam
before an alef. Such a sequence is recognised by its end, so the line is read from the right and
`Following` says what the characters just read may still combine with.
-/

namespace RouterMenu.Text

/-- What stands right of a character, as far as it can combine with it. -/
inductive Following where
  | plain
  | lineFeed
  /-- A selector that asks for the emoji shape. -/
  | asEmoji
  /-- A selector that asks for the text shape. -/
  | asText
  /-- A skin tone. -/
  | tone
  /-- One letter of a flag. -/
  | flagLetter
  /-- Two letters of a flag or more. -/
  | flagLetters
  /-- An emoji. -/
  | emoji
  /-- A joiner that an emoji follows. -/
  | joined
  /-- A selector before such a joiner. -/
  | asEmojiJoined
  /-- A keycap before such a joiner. -/
  | keycapJoined
  /-- A selector before such a keycap. -/
  | asEmojiKeycapJoined
  /-- The first letter of a flag before such a joiner. -/
  | flagLetterJoined
  /-- An even number of flag letters before such a joiner. -/
  | evenFlagJoined
  /-- An odd number of flag letters, three or more, before such a joiner. -/
  | oddFlagJoined
  /-- An alef, perhaps with marks before it. -/
  | alef
deriving DecidableEq, Repr

namespace Following

/-- The joiner of shapes. -/
def joiner : Char := '\u200D'

/-- The selector of the emoji shape. -/
def emojiSelector : Char := '\uFE0F'

/-- The selector of the text shape. -/
def textSelector : Char := '\uFE0E'

/-- The letters that flags are made of. -/
def isFlagLetter (c : Char) : Bool := 0x1F1E6 ≤ c.toNat && c.toNat ≤ 0x1F1FF

/-- The five skin tones. -/
def isTone (c : Char) : Bool := 0x1F3FB ≤ c.toNat && c.toNat ≤ 0x1F3FF

/-- The Arabic letters of the shape of lam. -/
def isLam (c : Char) : Bool :=
  let n := c.toNat
  n == 0x644 || (0x6B5 ≤ n && n ≤ 0x6B8) || n == 0x76A || n == 0x8A6 || n == 0x8C7

/-- Characters that take no column wherever they stand. -/
def isZeroWidth (c : Char) : Bool := combining.contains c || invisible.contains c

/-- A character that stands alone: its columns, and what it is to the character before it. -/
def alone (c : Char) : Int × Following :=
  if c = emojiSelector then (0, .asEmoji)
  else if c = textSelector then (0, .asText)
  else if c.toNat = 0x115F then (2, .plain)
  else if c.toNat = 0x2E3B then (3, .plain)
  else if isZeroWidth c then (0, .plain)
  else if isFlagLetter c then (1, .flagLetter)
  else if isTone c then (2, .tone)
  else if emojiByDefault.contains c then (2, .emoji)
  else if wide.contains c then (2, .plain)
  else if alefs.contains c then (1, .alef)
  else (1, .plain)

/-- What a selector of the emoji shape makes of what follows it. -/
def selectEmoji : Following → Following
  | .joined => .asEmojiJoined
  | .keycapJoined => .asEmojiKeycapJoined
  | .alef => .alef
  | _ => .asEmoji

/-- Characters that keep their emoji shape only until a text selector follows. -/
def keepsTextShape (c : Char) : Bool := emojiByDefault.contains c && c.toNat < 0x3000

/-- A character before what follows it, where no selector is pending. -/
def combine (c : Char) (next : Following) : Int × Following :=
  if c.toNat ≤ 0xA0 then
    if c = '\n' then (1, .lineFeed)
    else if c = '\r' && next = .lineFeed then (0, .plain)
    else (1, .plain)
  else if c = emojiSelector then (0, next.selectEmoji)
  else if c = textSelector then (0, .asText)
  else match next with
    | .alef =>
      if isLam c then (0, .plain)
      else if isZeroWidth c then (0, .alef)
      else alone c
    | .tone =>
      if modifiable.contains c then (0, .emoji)
      else if c = joiner then (0, .joined)
      else alone c
    | .flagLetter => if isFlagLetter c then (1, .flagLetters) else alone c
    | .flagLetters =>
      if isFlagLetter c then (1, .flagLetters)
      else if c = joiner then (0, .joined)
      else alone c
    | .emoji => if c = joiner then (0, .joined) else alone c
    | .joined =>
      if c.toNat = 0x20E3 then (0, .keycapJoined)
      else if isFlagLetter c then (1, .flagLetterJoined)
      else if isTone c then (0, .tone)
      else if (alone c).2 = .emoji then (0, .emoji)
      else alone c
    | .flagLetterJoined => if isFlagLetter c then (-1, .evenFlagJoined) else alone c
    | .evenFlagJoined =>
      if isFlagLetter c then (3, .oddFlagJoined)
      else if c = joiner then (0, .joined)
      else alone c
    | .oddFlagJoined =>
      if isFlagLetter c then (-1, .evenFlagJoined)
      else if c = joiner then (0, .joined)
      else alone c
    | _ => alone c

/-- The columns a character adds to what follows it. -/
def read (c : Char) (next : Following) : Int × Following :=
  match next with
  | .asEmoji => if emojiCapable.contains c then (2, .emoji) else combine c .plain
  | .asEmojiJoined | .asEmojiKeycapJoined =>
    if emojiCapable.contains c then (0, .emoji) else combine c .plain
  | .asText => if keepsTextShape c then (1, .plain) else combine c .plain
  | _ => combine c next

end Following

/-- The columns of a line of text. -/
def columns (s : List Char) : Nat :=
  (s.reverse.foldl (fun (acc : Int × Following) c =>
    let (width, next) := Following.read c acc.2
    (acc.1 + width, next)) (0, .plain)).1.toNat

end RouterMenu.Text
