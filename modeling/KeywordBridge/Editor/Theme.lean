import KeywordBridge.Json.Basic
import KeywordBridge.Token.Basic

/-!
# The theme of an editor

A theme tells an editor in which colour and font the tokens of every kind are
shown. White space has no style of its own. Editors take a theme as a list of
rules, one for every kind, on top of a theme that they already have.
-/

namespace KeywordBridge

/-- How the font of a token differs from the font of the editor. -/
inductive FontStyle where
  | plain
  | bold
  | italic
  | underline
deriving DecidableEq

/-- The public name of a font style. -/
def FontStyle.name : FontStyle → Text
  | plain => ""
  | bold => "bold"
  | italic => "italic"
  | underline => "underline"

/-- The colour of a token, as hexadecimal digits, and its font. -/
structure TokenStyle where
  foreground : Text
  font : FontStyle := .plain

namespace Theme

/-- The name under which the theme is known to an editor. -/
def name : Text := "isipython-theme"

/-- The style of every kind of token that has one. -/
def styles : List (TokenKind × TokenStyle) :=
  [
    (.keyword, ⟨"0000ff", .bold⟩),
    (.comment, ⟨"008000", .italic⟩),
    (.string, ⟨"a31515", .plain⟩),
    (.escape, ⟨"ff0000", .plain⟩),
    (.brokenString, ⟨"cd3131", .underline⟩),
    (.number, ⟨"098658", .plain⟩),
    (.float, ⟨"098658", .plain⟩),
    (.operator, ⟨"000000", .plain⟩),
    (.bracket, ⟨"000000", .plain⟩),
    (.identifier, ⟨"001080", .plain⟩),
    (.invalid, ⟨"cd3131", .underline⟩)
  ]

/-- White space alone has no style. -/
theorem mem_styles_iff (kind : TokenKind) :
    kind ∈ styles.map Prod.fst ↔ kind ≠ .white := by
  cases kind <;> decide

/-- The rule for one kind of token. -/
def rule (kind : TokenKind) (style : TokenStyle) : Json :=
  .record [
    ("token", .string kind.name),
    ("foreground", .string style.foreground),
    ("fontStyle", .string style.font.name)]

/-- The rules of the theme. -/
def rules : Json :=
  .array (styles.map fun (kind, style) => rule kind style)

/-- The colours of the editor itself. -/
def colors : Json :=
  .record [
    ("editor.background", .string "#ffffff"),
    ("editor.foreground", .string "#000000")]

/-- The theme as an editor takes it. -/
def toJson : Json :=
  .record [
    ("base", .string "vs"),
    ("inherit", .bool true),
    ("rules", rules),
    ("colors", colors)]

end Theme

end KeywordBridge
