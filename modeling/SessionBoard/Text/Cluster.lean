import SessionBoard.Text.Ranges
import SessionBoard.Text.Cluster.Ranges

namespace SessionBoard.Text.Cluster

inductive Kind
  | carriageReturn
  | lineFeed
  | control
  | extend
  | joiner
  | regional
  | prepended
  | spacingMark
  | leading
  | vowel
  | trailing
  | openSyllable
  | closedSyllable
  | other
  deriving DecidableEq, Repr

def Kind.ofChar (char : Char) : Kind :=
  let n := char.toNat
  if n = 0x0d then .carriageReturn
  else if n = 0x0a then .lineFeed
  else if 0x20 ≤ n ∧ n < 0x7f then .other
  else if inRanges controlRanges n then .control
  else if n = 0x200d then .joiner
  else if inRanges extendRanges n then .extend
  else if inRanges prependedRanges n then .prepended
  else if inRanges spacingMarkRanges n then .spacingMark
  else if 0x1f1e6 ≤ n ∧ n ≤ 0x1f1ff then .regional
  else if inRanges [(0x1100, 0x115f), (0xa960, 0xa97c)] n then .leading
  else if inRanges [(0x1160, 0x11a7), (0xd7b0, 0xd7c6), (0x16d63, 0x16d63), (0x16d67, 0x16d6a)] n
    then .vowel
  else if inRanges [(0x11a8, 0x11ff), (0xd7cb, 0xd7fb)] n then .trailing
  else if 0xac00 ≤ n ∧ n ≤ 0xd7a3 then
    if (n - 0xac00) % 28 = 0 then .openSyllable else .closedSyllable
  else .other

/-- An emoji that a joiner may continue. -/
inductive Picture
  | none
  | plain
  | joined
  deriving DecidableEq, Repr

/-- A consonant that a linker may tie to the next one. -/
inductive Conjunct
  | none
  | consonant
  | linked
  deriving DecidableEq, Repr

structure Seam where
  last : Kind
  picture : Picture
  conjunct : Conjunct
  /-- An odd number of regional letters ends here. -/
  halfFlag : Bool
  deriving DecidableEq, Repr

def isPictographic (char : Char) : Bool :=
  0xa9 ≤ char.toNat && inRanges pictographicRanges char.toNat

def nextPicture (seam : Picture) (char : Char) (kind : Kind) : Picture :=
  if isPictographic char then .plain
  else match seam, kind with
    | .plain, .extend => .plain
    | .plain, .joiner => .joined
    | _, _ => .none

def nextConjunct (seam : Conjunct) (char : Char) (kind : Kind) : Conjunct :=
  let n := char.toNat
  if inRanges conjunctConsonantRanges n then .consonant
  else if seam = .none then .none
  else if inRanges conjunctLinkerRanges n then .linked
  else if (kind = .extend ∧ n ≠ 0x200c) ∨ kind = .joiner then seam
  else .none

/-- The seam after a character; `none` stands for the start of the text. -/
def Seam.after (seam : Option Seam) (char : Char) : Seam :=
  let kind := Kind.ofChar char
  { last := kind
    picture := nextPicture (seam.elim .none (·.picture)) char kind
    conjunct := nextConjunct (seam.elim .none (·.conjunct)) char kind
    halfFlag := kind = .regional && !seam.elim false (·.halfFlag) }

def Kind.isControl : Kind → Bool
  | .carriageReturn | .lineFeed | .control => true
  | _ => false

def Seam.continues (seam : Seam) (char : Char) : Bool :=
  let kind := Kind.ofChar char
  if seam.last = .carriageReturn ∧ kind = .lineFeed then true
  else if seam.last.isControl ∨ kind.isControl then false
  else match seam.last, kind with
    | .leading, .leading | .leading, .vowel | .leading, .openSyllable | .leading, .closedSyllable
    | .openSyllable, .vowel | .openSyllable, .trailing | .vowel, .vowel | .vowel, .trailing
    | .closedSyllable, .trailing | .trailing, .trailing => true
    | _, .extend | _, .joiner | _, .spacingMark => true
    | .prepended, _ => true
    | .regional, .regional => seam.halfFlag
    | _, _ =>
      (seam.conjunct = .linked ∧ inRanges conjunctConsonantRanges char.toNat) ∨
        (seam.picture = .joined ∧ isPictographic char)

/-- Splits text that follows what the seam has seen: the rest of the current cluster, and the
clusters after it. -/
def splitFrom (seam : Seam) : List Char → List Char × List (List Char)
  | [] => ([], [])
  | char :: text =>
    let (cluster, more) := splitFrom (Seam.after (some seam) char) text
    if seam.continues char then (char :: cluster, more) else ([], (char :: cluster) :: more)

/-- The clusters of a text, in order: the characters as a reader perceives them. A cluster is drawn as a whole
or not at all. -/
def split : List Char → List (List Char)
  | [] => []
  | char :: text =>
    let (cluster, more) := splitFrom (Seam.after none char) text
    (char :: cluster) :: more

end SessionBoard.Text.Cluster
