import SplitPanel.Screen.Expansion
import SplitPanel.Screen.Display

/-!
# Drawing

The host's content is drawn character by character.  A screen without any is left to the
keyboard, which then draws its own.
-/

namespace SplitPanel.Screen.Buffers

variable {capacity : Nat} {δ : Type} [Display δ]

/-- Draws the content from the host, and says whether there was any. -/
def draw (source : NameSource) (buffers : Buffers capacity) (display : δ) :
    δ × Except DisplayFault Bool :=
  if buffers.isFilled then
    match Display.write (buffers.render source) display with
    | (drawn, .ok ()) => (drawn, .ok true)
    | (drawn, .error e) => (drawn, .error e)
  else
    (display, .ok false)

end SplitPanel.Screen.Buffers
