namespace SessionBoard.Text

/-- Whether a number is in one of the ranges, first and last included and in ascending order. -/
def inRanges : List (Nat × Nat) → Nat → Bool
  | [], _ => false
  | (first, last) :: rest, n => first ≤ n && (n ≤ last || inRanges rest n)

end SessionBoard.Text
