/-!
# Searching a text for a phrase
-/

namespace RenderCore.Text

/-- Whether `phrase` stands somewhere in a list of characters. -/
def occursIn (phrase : List Char) : List Char → Bool
  | [] => phrase.isEmpty
  | c :: rest => phrase.isPrefixOf (c :: rest) || occursIn phrase rest

/-- Whether `phrase` stands somewhere in `text`. -/
def containsPhrase (text phrase : String) : Bool := occursIn phrase.toList text.toList

/-- A phrase occurs exactly if the text can be split around it. -/
theorem occursIn_iff (phrase text : List Char) :
    occursIn phrase text = true ↔ phrase <:+: text := by
  induction text with
  | nil => simp [occursIn]
  | cons c rest ih => simp [occursIn, ih, List.infix_cons_iff]

end RenderCore.Text
