import CodeLint.Json.Basic

/-!
What the window does to its parts: the pane with the code, the pane with the results, and the
margin with the line numbers. The actions of an event are listed in the order they are done.
-/

namespace CodeLint.Window

inductive Action
  | readCode
  | clearCode
  | insertCode (text : String)
  | unlockResults
  | clearResults
  | insertResults (text : String)
  | lockResults
  | removeHighlights
  | highlight (start stop : String)
  | styleHighlights
  | clearMargin
  | askTop
  | askLine (index : String)
  | askNext (index : String)
  | askWidth
  | drawBand (color : String) (left top right bottom : Int)
  | drawNumber (text : String) (left top : Int)
  | scrollCode (arguments : List Json)
  | scrollMargin (arguments : List Json)
  | moveCode (lines : Int)
  | moveMargin (lines : Int)
  | showError (title text : String)

end CodeLint.Window
