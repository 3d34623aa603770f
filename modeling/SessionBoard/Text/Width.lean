import SessionBoard.Text.Ranges
import SessionBoard.Text.Width.Ranges

namespace SessionBoard.Text.Width

/-- Controls have no width of their own. -/
def isControl (char : Char) : Bool :=
  char.toNat < 0x20 || (0x7f ≤ char.toNat && char.toNat < 0xa0)

def ofPrintable (char : Char) : Nat :=
  let n := char.toNat
  if n < 0xa0 then 1
  else if n = 0x17d8 then 3
  else if n = 0x115f ∨ n = 0x17a4 then 2
  else if n = 0x2d7f then 1
  else if inRanges zeroWidth n then 0
  else if inRanges wide n then 2
  else 1

def ofChar (char : Char) : Nat :=
  if isControl char then 0 else ofPrintable char

/-- Letters that form a ligature with what stands before them. -/
inductive Ligature
  | alef
  | lamed
  | coengLetter
  | ya
  | vowelYa
  | tifinagh
  | joinedTifinagh
  | toneLetter
  | orkhonI
  | vowelE
  | vowelAi
  deriving DecidableEq, Repr

/-- What the rest of the text, to the right, starts with. -/
inductive Following
  | plain
  | lineFeed
  | skinTone
  | regional
  | regionals
  | emoji
  /-- A joiner and an emoji: whatever emoji comes before takes no columns of its own. -/
  | joined
  | joinedKeycap
  | joinedRegional
  | joinedRegionals (even : Bool)
  /-- The end of a flag's tags and a joined emoji, with the letters and digits seen so far. -/
  | joinedTags (letters digits : Nat)
  | ligature (kind : Ligature) (joiner : Bool)
  deriving DecidableEq, Repr

inductive Selector
  | none
  | picture
  | plain
  deriving DecidableEq, Repr

structure Context where
  following : Following := .plain
  selector : Selector := .none
  deriving DecidableEq, Repr

def zeroWidthJoiner : Nat := 0x200d

def isRegional (n : Nat) : Bool := 0x1f1e6 ≤ n && n ≤ 0x1f1ff

def isSkinTone (n : Nat) : Bool := 0x1f3fb ≤ n && n ≤ 0x1f3ff

def isTagLetter (n : Nat) : Bool := 0xe0061 ≤ n && n ≤ 0xe007a

def isTagDigit (n : Nat) : Bool := 0xe0030 ≤ n && n ≤ 0xe0039

/-- Invisible characters that do not part a ligature. -/
def isTransparent (n : Nat) : Bool :=
  inRanges [(0x34f, 0x34f), (0x17b4, 0x17b5), (0x180b, 0x180d), (0x180f, 0x180f),
    (0x200d, 0x200d), (0xfe00, 0xfe0f), (0xe0100, 0xe01ef)] n

def isLam (n : Nat) : Bool :=
  inRanges [(0x644, 0x644), (0x6b5, 0x6b8), (0x76a, 0x76a), (0x8a6, 0x8a6), (0x8c7, 0x8c7)] n

def isAlef (n : Nat) : Bool :=
  inRanges [(0x622, 0x623), (0x625, 0x625), (0x627, 0x627), (0x671, 0x673), (0x675, 0x675),
    (0x773, 0x774), (0x870, 0x882)] n

/-- Marks that stand between a lam and an alef without parting them. -/
def isTransparentMark (char : Char) : Bool :=
  ofChar char = 0 && !isControl char && !inRanges opaqueZeroWidth char.toNat

def isCoengLetter (n : Nat) : Bool :=
  inRanges [(0x1780, 0x1782), (0x1784, 0x1787), (0x1789, 0x178c), (0x178e, 0x1793),
    (0x1795, 0x1798), (0x179b, 0x179d), (0x17a0, 0x17a0), (0x17a2, 0x17a2), (0x17a7, 0x17a7),
    (0x17ab, 0x17ac), (0x17af, 0x17af)] n

def isTifinagh (n : Nat) : Bool :=
  inRanges [(0x2d31, 0x2d65), (0x2d6f, 0x2d6f)] n

def Following.ofChar (char : Char) : Following :=
  let n := char.toNat
  if isSkinTone n then .skinTone
  else if isRegional n then .regional
  else if isAlef n then .ligature .alef false
  else if n = 0x5dc then .ligature .lamed false
  else if isCoengLetter n then .ligature .coengLetter false
  else if n = 0x1a10 then .ligature .ya false
  else if isTifinagh n then .ligature .tifinagh false
  else if n = 0xa4fc ∨ n = 0xa4fd then .ligature .toneLetter false
  else if n = 0x10c03 then .ligature .orkhonI false
  else if n = 0x16d67 then .ligature .vowelE false
  else if inRanges emojiPresentation n then .emoji
  else .plain

/-- Columns added, which ligatures may also take back, and the new context. -/
abbrev Measured := Int × Context

def next (columns : Int) (following : Following) : Measured := (columns, { following })

/-- A character before an emoji or a ligature letter, if it becomes part of it. -/
def joinWith (char : Char) (following : Following) : Option Measured :=
  let n := char.toNat
  match following with
  | .ligature kind joiner =>
    if kind ≠ .alef ∧ n = zeroWidthJoiner then some (next 0 (.ligature kind true))
    else if kind ≠ .alef ∧ isTransparent n then some (next 0 following)
    else match kind with
      | .alef =>
        if isLam n then some (next 0 .plain)
        else if isTransparentMark char then some (next 0 following)
        else none
      | .lamed => if joiner && n == 0x5d0 then some (next 0 .plain) else none
      | .coengLetter => if !joiner && n == 0x17d2 then some (next (-1) .plain) else none
      | .ya => if joiner && n == 0x1a17 then some (next 0 (.ligature .vowelYa false)) else none
      | .vowelYa => if n = 0x1a15 then some (next 0 .plain) else none
      | .tifinagh =>
        if n = 0x2d7f then some (next 1 (.ligature .joinedTifinagh false))
        else if joiner && isTifinagh n then some (next 0 .plain)
        else none
      | .joinedTifinagh => if isTifinagh n then some (next (-1) .plain) else none
      | .toneLetter => if 0xa4f8 ≤ n ∧ n ≤ 0xa4fb then some (next 0 .plain) else none
      | .orkhonI => if joiner && n == 0x10c32 then some (next 0 .plain) else none
      | .vowelE =>
        if n = 0x16d63 ∨ n = 0x16d69 then some (next 0 .plain)
        else if n = 0x16d67 then some (next 0 (.ligature .vowelAi false))
        else if n = 0x16d68 then some (next 1 (.ligature .vowelE false))
        else none
      | .vowelAi => if n = 0x16d63 then some (next 0 .plain) else none
  | .skinTone =>
    if inRanges emojiModifierBase n then some (next 0 .emoji)
    else if n = zeroWidthJoiner then some (next 0 .joined)
    else none
  | .regional => if isRegional n then some (next 1 .regionals) else none
  | .regionals =>
    if isRegional n then some (next 1 .regionals)
    else if n = zeroWidthJoiner then some (next 0 .joined)
    else none
  | .emoji => if n = zeroWidthJoiner then some (next 0 .joined) else none
  | .joined =>
    if n = 0x20e3 then some (next 0 .joinedKeycap)
    else if isRegional n then some (next 1 .joinedRegional)
    else if isSkinTone n then some (next 0 .skinTone)
    else if n = 0xe007f then some (next 0 (.joinedTags 0 0))
    else if inRanges emojiPresentation n then some (next 0 .emoji)
    else none
  | .joinedRegional => if isRegional n then some (next (-1) (.joinedRegionals true)) else none
  | .joinedRegionals even =>
    if isRegional n then some (next (if even then 3 else -1) (.joinedRegionals (!even)))
    else if n = zeroWidthJoiner then some (next 0 .joined)
    else none
  | .joinedTags letters digits =>
    if isTagLetter n ∧ digits = 0 ∧ letters < 6 then some (next 0 (.joinedTags (letters + 1) 0))
    else if isTagDigit n ∧ digits < 3 ∧ (digits ≠ 0 ∨ letters ≤ 4) then
      some (next 0 (.joinedTags letters (digits + 1)))
    else if n = 0x1f3f4 ∧ (digits = 3 ∨ (digits = 0 ∧ 3 ≤ letters)) then some (next 0 .emoji)
    else none
  | .plain | .lineFeed | .joinedKeycap => none

def Context.withPicture (context : Context) : Context :=
  match context.following with
  | .joined | .joinedKeycap | .ligature .. => { context with selector := .picture }
  | _ => { following := .plain, selector := .picture }

def Context.withText (context : Context) : Context :=
  match context.following with
  | .ligature .. => { context with selector := .plain }
  | _ => { following := .plain, selector := .plain }

/-- The columns a character adds in front of what follows it. -/
def step (char : Char) (context : Context) : Measured :=
  let n := char.toNat
  if context.selector = .picture ∧ inRanges pictureStart n then
    next (match context.following with
      | .joined | .joinedKeycap => 0
      | _ => 2) .emoji
  else if n ≤ 0xa0 then
    if char = '\n' then next 1 .lineFeed
    else if char = '\r' ∧ context.following = .lineFeed then next 0 .plain
    else next 1 .plain
  else if n = 0xfe0f then (0, context.withPicture)
  else if n = 0xfe0e then (0, context.withText)
  else if context.selector = .plain ∧ inRanges plainStart n then next 1 .plain
  else match joinWith char context.following with
    | some measured => measured
    | none => next (ofPrintable char) (Following.ofChar char)

/-- The columns of the text and the context it makes for what stands before it. -/
def measure : List Char → Measured
  | [] => (0, {})
  | char :: text =>
    let (columns, context) := measure text
    let (more, context) := step char context
    (columns + more, context)

/-- The columns a whole text takes on a terminal: the sum of the widths of its characters, but for sequences
that are drawn as one, which are line ends, emoji and a few ligatures. A text is measured from its end, because
what follows a character decides how it is drawn. -/
def ofText (text : List Char) : Nat :=
  (measure text).1.toNat

end SessionBoard.Text.Width
