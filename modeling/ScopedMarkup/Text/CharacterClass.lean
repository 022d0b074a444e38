import ScopedMarkup.Text.Basic

namespace ScopedMarkup

/-! A class of characters is given by the closed ranges of its code points. -/

abbrev CharacterClass := List (Nat × Nat)

namespace CharacterClass

def covers (ranges : CharacterClass) (character : Char) : Bool :=
  ranges.any fun (first, last) => first ≤ character.toNat && character.toNat ≤ last

end CharacterClass

end ScopedMarkup
