/-!
# LiveTrace.Console.Color

The colors of a terminal by name and number, and painting text with them.
-/

namespace LiveTrace

/-- A color of the terminal. -/
inductive Color
  | black
  | darkRed
  | darkGreen
  | darkYellow
  | darkBlue
  | darkMagenta
  | darkCyan
  | grey
  | darkGrey
  | red
  | green
  | yellow
  | blue
  | magenta
  | cyan
  | white
  deriving DecidableEq, Inhabited

namespace Color

/-- Names of the colors; two of them have two spellings. -/
def names : List (String × Color) :=
  [("black", black), ("red", red), ("dark_red", darkRed), ("green", green),
   ("dark_green", darkGreen), ("yellow", yellow), ("dark_yellow", darkYellow), ("blue", blue),
   ("dark_blue", darkBlue), ("magenta", magenta), ("dark_magenta", darkMagenta), ("cyan", cyan),
   ("dark_cyan", darkCyan), ("gray", grey), ("grey", grey), ("dark_gray", darkGrey),
   ("dark_grey", darkGrey), ("white", white)]

/-- The lower-case form of a letter of ASCII, and of the Kelvin sign, which is the one other
character whose lower-case form is a letter of ASCII. -/
def lowerLetter (c : Char) : Char := if c = '\u212A' then 'k' else c.toLower

/-- The color of a name, in letters of either case; grey for any other text. -/
def ofName (s : String) : Color := (names.lookup (s.map lowerLetter)).getD grey

/-- Number of the color on the terminal. -/
def number : Color → Nat
  | black => 0
  | darkRed => 1
  | darkGreen => 2
  | darkYellow => 3
  | darkBlue => 4
  | darkMagenta => 5
  | darkCyan => 6
  | grey => 7
  | darkGrey => 8
  | red => 9
  | green => 10
  | yellow => 11
  | blue => 12
  | magenta => 13
  | cyan => 14
  | white => 15

/-- The character that begins an escape sequence. -/
def escape : Char := '\x1b'

/-- The escape sequence that turns a color on. -/
def start (c : Color) : List Char :=
  escape :: "[38;5;".toList ++ (toString c.number).toList ++ ['m']

/-- The escape sequence that turns colors off. -/
def stop : List Char := escape :: "[39m".toList

/-- A text in a color. -/
def paint (c : Color) (text : List Char) : List Char := c.start ++ text ++ stop

end Color

end LiveTrace
