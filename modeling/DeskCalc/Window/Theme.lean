/-! The themes of the window and the style sheets that follow from them. -/

namespace DeskCalc.Window

/-- The colours of a theme. -/
structure Theme where
  background : String
  surface : String
  accent : String
  clear : String
  text : String
deriving DecidableEq

namespace Theme

/-- Light text on dark ground. -/
def dark : Theme := ⟨"#202020", "#303030", "#007AFF", "#CC0000", "white"⟩

/-- Dark text on light ground. -/
def light : Theme := ⟨"#F0F0F0", "#E0E0E0", "#007AFF", "#FF3B30", "black"⟩

/-- The theme of a window that is dark or not. -/
def of (isDark : Bool) : Theme :=
  if isDark then dark else light

/-- The style of the window. -/
def windowStyle (theme : Theme) : String :=
  s!"background-color: {theme.background};"

/-- The style of the expression line. -/
def upperStyle (theme : Theme) : String :=
  s!"color: {theme.text};"

/-- The style of the result line. -/
def lowerStyle (theme : Theme) : String :=
  s!"background-color: {theme.background}; color: {theme.accent}; border: none;"

/-- The buttons that take something away. -/
def clearButtons : List String := ["C", "DEL"]

/-- The buttons that stand out, with operators and functions among them. -/
def accentButtons : List String :=
  ["=", "+", "-", "*", "/", "^", "sin", "cos", "tan", "sqrt", "log", "ln", "(", ")"]

/-- The style of a button that is filled with a colour and set in bold. -/
def boldStyle (color : String) : String :=
  s!"background-color: {color}; color: white; font-weight: bold;"

/-- The style of a button other than equals. -/
def buttonStyle (theme : Theme) (button : String) : String :=
  if clearButtons.contains button then boldStyle theme.clear
  else if accentButtons.contains button then
    s!"background-color: {theme.accent}; color: white;"
  else s!"background-color: {theme.surface}; color: {theme.text};"

/-- The colour of the equals button, which shows whether a calculation is running. -/
def equalsColor (theme : Theme) (running : Bool) : String :=
  if running then theme.clear else theme.accent

/-- The style of the settings dialog: only a dark window needs one. -/
def dialogStyle (isDark : Bool) : String :=
  let block (selector declarations : String) := selector ++ " \x7b" ++ declarations ++ "\x7d"
  let ground := s!"background-color: {dark.background};"
  let field := s!"background-color: {dark.surface};color: white;"
  if isDark then
    " ".intercalate [block "QDialog" ground, block "QLabel" "color: white;",
      block "QCheckBox" "color: white;", block "QLineEdit" (field ++ "border: 1px solid #666666;"),
      block "QDialogButtonBox QPushButton" field]
  else ""

end Theme

end DeskCalc.Window
