import DeskCalc.Display
import DeskCalc.Settings.Store
import DeskCalc.Window.Layout
import DeskCalc.Window.Theme

/-! The window: what it is about, what it shows, and the colours it shows it in. -/

namespace DeskCalc

/-- The window: its settings and display, the lines and colours it shows, and what is going on. -/
structure Window where
  settings : Json.Members
  display : Display := .clear
  upper : String := ""
  lower : String := "0"
  isRunning : Bool := false
  jobs : List String := []
  isShiftHeld : Bool := false
  wasHeld : Bool := false
  heldButton : Option String := none
  timer : Option Nat := none
  theme : Window.Theme
  equalsColor : String

namespace Window

/-- Show the display on the two lines. -/
def refresh (window : Window) : Window :=
  { window with upper := window.display.expression, lower := window.display.result }

/-- The theme that the settings ask for. -/
def wantedTheme (window : Window) : Theme :=
  Theme.of (Settings.isOn window.settings "darkmode")

/-- Give the equals button the colour for what is going on. -/
def paintEquals (window : Window) : Window :=
  { window with equalsColor := window.wantedTheme.equalsColor window.isRunning }

/-- Give the window the theme that its settings ask for. -/
def paint (window : Window) : Window :=
  { window with theme := window.wantedTheme }.paintEquals

/-- A new window with settings. -/
def ofSettings (settings : Json.Members) : Window :=
  let theme := Theme.of (Settings.isOn settings "darkmode")
  { settings, theme, equalsColor := theme.equalsColor false }

/-- The style sheets of a window. -/
structure Styles where
  window : String
  upper : String
  lower : String
  buttons : List (String × String)

/-- The style sheets that the window shows. -/
def styles (window : Window) : Styles :=
  { window := window.theme.windowStyle
    upper := window.theme.upperStyle
    lower := window.theme.lowerStyle
    buttons := buttons.map fun button =>
      (button.label,
        if button.label == "=" then Theme.boldStyle window.equalsColor
        else window.theme.buttonStyle button.label) }

end Window

end DeskCalc
