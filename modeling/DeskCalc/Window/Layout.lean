/-! What a new window consists of: its two lines above a grid of buttons. -/

namespace DeskCalc.Window

/-- A button and its cell in the grid. -/
structure Button where
  label : String
  row : Nat
  column : Nat
  rowSpan : Nat := 1
  columnSpan : Nat := 1

/-- A font: its size in points, and whether it is bold. -/
structure Font where
  points : Nat
  isBold : Bool

/-- The measures of a window. -/
structure Layout where
  title : String
  width : Nat
  height : Nat
  stretches : List Nat
  upperFont : Font
  lowerFont : Font
  upperWraps : Bool
  lowerReadOnly : Bool
  spacing : Nat
  margins : List Nat
  rowStretches : List Nat
  columnStretches : List Nat

/-- The button that opens the settings. -/
def settingsButton : String := "⚙"

/-- The button that copies the result, or pastes while shift is held. -/
def clipboardButton : String := "📋"

/-- The title of the window. -/
def title : String := "Scientific Calculator"

/-- The layout of the window. -/
def layout : Layout :=
  { title
    width := 360
    height := 560
    stretches := [1, 1, 4]
    upperFont := ⟨24, false⟩
    lowerFont := ⟨36, true⟩
    upperWraps := true
    lowerReadOnly := true
    spacing := 4
    margins := [0, 0, 0, 0]
    rowStretches := List.replicate 7 1
    columnStretches := List.replicate 5 1 }

/-- The labels of the buttons, row by row; each row fills its columns from the left. -/
def labelRows : List (List String) :=
  [[settingsButton, clipboardButton],
    ["sin", "cos", "tan", "C", "DEL"],
    ["sqrt", "log", "ln", "(", ")"],
    ["7", "8", "9", "/", "^"],
    ["4", "5", "6", "*", "-"],
    ["1", "2", "3", "+", "="]]

/-- The buttons in the order of the grid; the zero in the last row takes two columns. -/
def buttons : List Button :=
  labelRows.zipIdx.flatMap (fun (labels, row) =>
    labels.zipIdx.map fun (label, column) =>
      ({ label := label, row := row, column := column } : Button)) ++
    [{ label := "0", row := 6, column := 0, columnSpan := 2 },
      { label := ".", row := 6, column := 2 }]

/-- The buttons that repeat while they are held down. -/
def repeatingButtons : List String :=
  ["0", "1", "2", "3", "4", "5", "6", "7", "8", "9", "DEL"]

end DeskCalc.Window
