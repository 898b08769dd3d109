import LiveTrace.Config.Basic
import LiveTrace.Console.Color
/-!
# LiveTrace.Console.Span

Output for a terminal as a list of spans. A span is plain, or it plays a role that has a color; a
span in a column is followed by blanks. A `Console` writes spans with or without colors. The width
of a column counts the characters that are written, those of escape sequences included.
-/

namespace LiveTrace

/-- The roles of texts that have a color. -/
inductive Role
  | number
  | string
  | boolean
  | null
  | json
  | key
  | tag
  | error
  deriving DecidableEq, Inhabited

/-- Name of the color of a role. -/
def StyleConfig.color (s : StyleConfig) : Role → String
  | .number => s.number
  | .string => s.string
  | .boolean => s.boolean
  | .null => s.null
  | .json => s.json
  | .key => s.key
  | .tag => s.tag
  | .error => s.error

/-- The role of a leaf. -/
def LeafClass.role : LeafClass → Role
  | .number => .number
  | .string => .string
  | .boolean => .boolean
  | .null => .null
  | .json => .json

/-- A piece of output. -/
inductive Span
  | plain (text : List Char)
  | painted (role : Role) (text : List Char)
  /-- A column of the given width. -/
  | column (width : Nat) (role : Role) (text : List Char)
  deriving DecidableEq, Inhabited

namespace Span

/-- A plain text. -/
def text (s : String) : Span := plain s.toList

/-- A text in the color of a role. -/
def inRole (role : Role) (s : String) : Span := painted role s.toList

end Span

/-- How output is written. -/
structure Console where
  palette : Role → Color
  /-- Whether colors are used. -/
  colored : Bool
  /-- Whether to print who may use an operation. -/
  showPermissions : Bool

namespace Console

/-- A console with the colors of a style, which are used if they can and the style wants them. -/
def new (style : StyleConfig) (colored showPermissions : Bool) : Console :=
  ⟨fun role => .ofName (style.color role), colored && style.enabled, showPermissions⟩

/-- Write a text in the color of a role. -/
def paint (c : Console) (role : Role) (text : List Char) : List Char :=
  if c.colored then (c.palette role).paint text else text

/-- Write blanks after a text, up to a width. -/
def pad (width : Nat) (text : List Char) : List Char :=
  text ++ List.replicate (width - text.length) ' '

/-- Write a span. -/
def writeSpan (c : Console) : Span → List Char
  | .plain text => text
  | .painted role text => c.paint role text
  | .column width role text => pad width (c.paint role text)

@[simp] theorem writeSpan_plain (c : Console) (text : List Char) :
    c.writeSpan (.plain text) = text := rfl

theorem writeSpan_painted {c : Console} (h : c.colored = false) (role : Role) (text : List Char) :
    c.writeSpan (.painted role text) = text := by
  simp [writeSpan, paint, h]

/-- Write spans one after the other. -/
def writeChars (c : Console) (spans : List Span) : List Char := spans.flatMap c.writeSpan

/-- Write spans one after the other. -/
def write (c : Console) (spans : List Span) : String := String.ofList (c.writeChars spans)

@[simp] theorem writeChars_nil (c : Console) : c.writeChars [] = [] := rfl

@[simp] theorem writeChars_cons (c : Console) (s : Span) (spans : List Span) :
    c.writeChars (s :: spans) = c.writeSpan s ++ c.writeChars spans := rfl

@[simp] theorem writeChars_append (c : Console) (spans spans' : List Span) :
    c.writeChars (spans ++ spans') = c.writeChars spans ++ c.writeChars spans' :=
  List.flatMap_append

end Console

end LiveTrace
