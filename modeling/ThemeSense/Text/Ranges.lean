namespace ThemeSense

/-- Whether the character's code point lies in one of the closed intervals. -/
def inRanges (table : List (Nat × Nat)) (c : Char) : Bool :=
  table.any fun (low, high) => low ≤ c.toNat && c.toNat ≤ high

end ThemeSense
