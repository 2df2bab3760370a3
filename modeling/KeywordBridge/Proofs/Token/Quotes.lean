import KeywordBridge.Token.Basic

/-!
# Reading a line for its quotes

Where strings and comments stand on a line can be read off from left to right
with nothing but the quotes, the backslashes and the number signs. In code, three
equal quotes open a string between triple quotes, any other quote opens a string
that has to end on its line, and a number sign opens a comment. In a string, a
backslash takes the next character with it, and the quotes that opened the string
close it. Numbers, names and keywords play no part in this.
-/

namespace KeywordBridge

/-- What a character of a line belongs to. -/
inductive Region where
  | code
  | string
  | comment
deriving DecidableEq

/-- May a line of a program start in the mode? Of the strings, only those between triple
quotes go on from one line to the next. -/
def Mode.StartsLine (mode : Mode) : Prop :=
  mode = .code ∨ ∃ quote, mode = .inTriple quote

theorem Mode.StartsLine.ne_blanks {mode : Mode} (start : mode.StartsLine) : mode ≠ .blanks := by
  rcases start with rfl | ⟨quote, rfl⟩
  · exact Mode.noConfusion
  · exact Mode.noConfusion

/-- Where the reading of a line has arrived. -/
inductive Zone where
  | code
  | inLine (quote : Quote)
  | inTriple (quote : Quote)
  | comment
deriving DecidableEq

/-- The quote that is written with a character. -/
def Quote.ofMark? (c : Char) : Option Quote :=
  if c = '"' then some .double else if c = '\'' then some .single else none

/-- How a character is read. -/
structure Reading where
  region : Region
  /-- The zone behind the character. -/
  zone : Zone
  /-- The number of characters behind it that belong to the string with it,
  whatever they are. -/
  held : Nat

namespace Zone

/-- Read a character in front of what follows on the line. -/
def read : Zone → Char → Text → Reading
  | code, c, rest =>
      match Quote.ofMark? c with
      | some quote =>
          if rest.take 2 = [c, c] then ⟨.string, .inTriple quote, 2⟩
          else ⟨.string, .inLine quote, 0⟩
      | none => if c = '#' then ⟨.comment, .comment, 0⟩ else ⟨.code, .code, 0⟩
  | inLine quote, c, _ =>
      if c = '\\' then ⟨.string, .inLine quote, 1⟩
      else if c = quote.mark then ⟨.string, .code, 0⟩
      else ⟨.string, .inLine quote, 0⟩
  | inTriple quote, c, rest =>
      if c = '\\' then ⟨.string, .inTriple quote, 1⟩
      else if c = quote.mark ∧ rest.take 2 = [c, c] then ⟨.string, .code, 2⟩
      else ⟨.string, .inTriple quote, 0⟩
  | comment, _, _ => ⟨.comment, .comment, 0⟩

/-- The regions of the characters of a text that is read from a zone on, and the
zone at its end. The first `held` characters belong to a string. -/
def scan : Zone → (held : Nat) → Text → List Region × Zone
  | zone, _, [] => ([], zone)
  | zone, held + 1, _ :: rest =>
      let (regions, final) := scan zone held rest
      (.string :: regions, final)
  | zone, 0, c :: rest =>
      let reading := zone.read c rest
      let (regions, final) := scan reading.zone reading.held rest
      (reading.region :: regions, final)

/-- Where a line starts that the mode of a line before it leaves to it. -/
def ofMode : Mode → Zone
  | .inLine quote => inLine quote
  | .inTriple quote => inTriple quote
  | .code | .blanks => code

/-- The mode in which the next line starts: only a string between triple quotes
goes on there. -/
def nextMode : Zone → Mode
  | inTriple quote => .inTriple quote
  | _ => .code

/-- A reading leaves to the next line a mode in which a line may start. -/
theorem startsLine_nextMode (zone : Zone) : zone.nextMode.StartsLine := by
  cases zone with
  | code => exact .inl rfl
  | inLine _ => exact .inl rfl
  | inTriple quote => exact .inr ⟨quote, rfl⟩
  | comment => exact .inl rfl

/-- Does a line that ends here break off a string? -/
def breaksString : Zone → Bool
  | inLine _ => true
  | _ => false

/-- The numbers of the lines that break off a string, if the first line has the
given number. -/
def brokenLines : (number : Nat) → Zone → List Text → List Nat
  | _, _, [] => []
  | number, zone, line :: rest =>
      let final := (zone.scan 0 line).2
      let others := brokenLines (number + 1) (ofMode final.nextMode) rest
      if final.breaksString then number :: others else others

end Zone

/-- The region that tokens of a kind lie in. -/
def TokenKind.region : TokenKind → Region
  | string | escape | brokenString => .string
  | comment => .comment
  | _ => .code

/-- The regions of the characters of a lexeme. -/
def Lexeme.regions (lexeme : Lexeme) : List Region :=
  List.replicate lexeme.value.length lexeme.kind.region

end KeywordBridge
