/-!
Machine words: how many values a word of a given width has.
-/

namespace KeymapViewer

/-- The number of words of so many bits. -/
def wordCount (bits : Nat) : Nat := Nat.pow 2 bits

theorem wordCount_pos (bits : Nat) : 0 < wordCount bits :=
  Nat.pow_pos (by decide)

end KeymapViewer
