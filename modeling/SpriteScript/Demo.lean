import SpriteScript.Compilation

/-!
# A sample program

A small source that uses most of the language, and its code.
-/

namespace SpriteScript.Demo

open SpriteScript

/-- The lines of the sample. -/
def lines : List String := [
  "",
  "    var score = 0",
  "    list colors [\"red\" \"green\"]",
  "",
  "    when flagClicked",
  "        say \"Hello!\" 2",
  "        repeat 4 \x7b",
  "            move 10",
  "            wait 0.5",
  "        \x7d",
  "        change score 1",
  "        if (score) \x7b",
  "            say score",
  "        \x7d",
  "",
  "    when keyPressedspace",
  "        move -10",
  "    "]

/-- The sample source. -/
def source : Text :=
  Text.joined "\n" (lines.map Text.ofString)

/-- What compiling the sample prints. -/
def output : Except Error Text := do
  let parser ← Parser.create (tokenize source)
  return (← (JavaScript.generate parser.parse.program).code) ++ "\n"

end SpriteScript.Demo
