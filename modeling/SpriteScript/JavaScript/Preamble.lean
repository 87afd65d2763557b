import SpriteScript.Text.Basic

/-!
# The preamble of generated code

Generated code begins with the object that it runs on: a stage and one sprite that can speak and
move. The text is fixed.
-/

namespace SpriteScript.JavaScript

/-- The lines that define the runtime object. -/
def runtimeLines : List String := [
  "// Generated Scratch-like JavaScript code",
  "// Runtime support functions",
  "const scratchRuntime = \x7b",
  "    sprites: \x7b\x7d,",
  "    stage: \x7b width: 480, height: 360 \x7d,",
  "    currentSprite: 'Sprite1',",
  "    init: function() \x7b",
  "        this.sprites.Sprite1 = \x7b",
  "            x: 0,",
  "            y: 0,",
  "            direction: 90,",
  "            costumes: ['default'],",
  "            currentCostume: 0,",
  "            visible: true,",
  "            say: function(message, seconds) \x7b",
  "                console.log(`$\x7bscratchRuntime.currentSprite\x7d says: $\x7bmessage\x7d`);",
  "                if (seconds) \x7b",
  "                    setTimeout(() => console.log(`$\x7bscratchRuntime.currentSprite\x7d stopped saying`), seconds * 1000);",
  "                \x7d",
  "            \x7d,",
  "            move: function(steps) \x7b",
  "                const radians = this.direction * Math.PI / 180;",
  "                this.x += steps * Math.cos(radians);",
  "                this.y += steps * Math.sin(radians);",
  "                console.log(`$\x7bscratchRuntime.currentSprite\x7d moved to ($\x7bthis.x\x7d, $\x7bthis.y\x7d)`);",
  "            \x7d",
  "        \x7d;",
  "    \x7d",
  "\x7d;",
  ""]

/-- The text that every generated program begins with. -/
def preamble : Text :=
  Text.ofString (String.join (runtimeLines.map (· ++ "\n")) ++ "scratchRuntime.init();\n\n")

/-- The sprite that blocks act on. -/
def sprite : Text :=
  "scratchRuntime.sprites[scratchRuntime.currentSprite]"

end SpriteScript.JavaScript
