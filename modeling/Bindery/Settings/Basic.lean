import Bindery.Interaction.Element
import Bindery.Text.Numeral
import Bindery.Wait

/-!
# Bindery — Settings — Basic

The settings of a session and the policies that follow from them.
-/

namespace Bindery

/-- The settings of a session.  Times are in milliseconds where no unit is said. -/
structure Settings where
  waitTimeoutSeconds : Nat
  throttle : Nat
  pollInterval : Nat
  captureScreenshots : Bool
  highlightStyle : String
  highlightTime : Nat
  dryRun : Bool
  maxDepth : Nat
  properties : List (String × String)
deriving DecidableEq, Repr

namespace Settings

/-- The settings where nothing is said. -/
def standard : Settings where
  waitTimeoutSeconds := 10
  throttle := 200
  pollInterval := 250
  captureScreenshots := false
  highlightStyle := "background: yellow; border: 2px solid gold;"
  highlightTime := 0
  dryRun := false
  maxDepth := 16
  properties := []

/-- How interactions are done. -/
def interaction (s : Settings) : InteractionPolicy :=
  ⟨s.captureScreenshots, s.highlightStyle, s.highlightTime, s.throttle⟩

/-- How conditions are waited for; a timeout past the largest word is that word. -/
def waits (s : Settings) : WaitPolicy :=
  ⟨min (s.waitTimeoutSeconds * 1000) Text.maxWord, s.throttle, s.pollInterval⟩

end Settings

end Bindery
