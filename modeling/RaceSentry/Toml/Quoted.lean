import RaceSentry.Text.Char

/-!
# Strings in TOML

There are four written forms: between quotes with escapes or between apostrophes without, each on
one line or, with the mark three times, on several. The functions here read what follows the
opening mark, up to and with the closing one, and give the text and what is left.
-/

namespace RaceSentry.Toml

/-- Characters that may stand in comments and strings: all but controls, among which a tab is
allowed. -/
def isPlain (char : Char) : Bool :=
  char == '\t' || (0x20 ≤ char.toNat && char.toNat != 0x7F)

/-- The character of a one-letter escape. -/
def escapedChar? (letter : Char) : Option Char :=
  match letter with
  | 'b' => some '\x08'
  | 't' => some '\t'
  | 'n' => some '\n'
  | 'f' => some '\x0c'
  | 'r' => some '\r'
  | '"' => some '"'
  | '\\' => some '\\'
  | _ => none

/-- The character with a code point in hexadecimal digits; surrogates are none. -/
def codeChar? (digits : List Char) : Option Char :=
  (Text.hexNumber? digits).bind fun code =>
    if valid : code.isValidChar then some (Char.ofNatAux code valid) else none

/-- Puts a character in front of a text that was read. -/
def prepend (char : Option Char) (found : Option (List Char × List Char)) :
    Option (List Char × List Char) :=
  char.bind fun char => found.map fun (text, rest) => (char :: text, rest)

/-- Reads a string between quotes on one line. -/
def basic? : List Char → Option (List Char × List Char)
  | [] => none
  | '"' :: rest => some ([], rest)
  | '\\' :: 'u' :: a :: b :: c :: d :: rest => prepend (codeChar? [a, b, c, d]) (basic? rest)
  | '\\' :: 'U' :: a :: b :: c :: d :: e :: f :: g :: h :: rest =>
    prepend (codeChar? [a, b, c, d, e, f, g, h]) (basic? rest)
  | '\\' :: letter :: rest => prepend (escapedChar? letter) (basic? rest)
  | char :: rest => if isPlain char then prepend (some char) (basic? rest) else none

/-- Reads a string between apostrophes on one line. -/
def literal? : List Char → Option (List Char × List Char)
  | [] => none
  | '\'' :: rest => some ([], rest)
  | char :: rest => if isPlain char then prepend (some char) (literal? rest) else none

/-- Whether a backslash before this text hides the end of its line: only spaces and tabs stand
before a line break. -/
def hidesLineEnd (chars : List Char) : Bool :=
  match chars.dropWhile fun char => char == ' ' || char == '\t' with
  | '\n' :: _ => true
  | '\r' :: '\n' :: _ => true
  | _ => false

/-- Reads a string between threefold quotes. After a hidden line end, which `skipping` tells,
all blanks and line breaks are dropped. Up to two quotes may stand before the closing three. -/
def multilineBasic? (skipping : Bool) : List Char → Option (List Char × List Char)
  | [] => none
  | '"' :: '"' :: '"' :: '"' :: '"' :: rest => some (['"', '"'], rest)
  | '"' :: '"' :: '"' :: '"' :: rest => some (['"'], rest)
  | '"' :: '"' :: '"' :: rest => some ([], rest)
  | '\\' :: 'u' :: a :: b :: c :: d :: rest =>
    prepend (codeChar? [a, b, c, d]) (multilineBasic? false rest)
  | '\\' :: 'U' :: a :: b :: c :: d :: e :: f :: g :: h :: rest =>
    prepend (codeChar? [a, b, c, d, e, f, g, h]) (multilineBasic? false rest)
  | '\r' :: '\n' :: rest =>
    if skipping then multilineBasic? true rest
    else prepend (some '\n') (multilineBasic? false rest)
  | '\n' :: rest =>
    if skipping then multilineBasic? true rest
    else prepend (some '\n') (multilineBasic? false rest)
  | '\\' :: letter :: rest =>
    if hidesLineEnd (letter :: rest) then multilineBasic? true (letter :: rest)
    else prepend (escapedChar? letter) (multilineBasic? false rest)
  | char :: rest =>
    if skipping && (char == ' ' || char == '\t') then multilineBasic? true rest
    else if isPlain char then prepend (some char) (multilineBasic? false rest)
    else none

/-- Reads a string between threefold apostrophes. Up to two apostrophes may stand before the
closing three. -/
def multilineLiteral? : List Char → Option (List Char × List Char)
  | [] => none
  | '\'' :: '\'' :: '\'' :: '\'' :: '\'' :: rest => some (['\'', '\''], rest)
  | '\'' :: '\'' :: '\'' :: '\'' :: rest => some (['\''], rest)
  | '\'' :: '\'' :: '\'' :: rest => some ([], rest)
  | '\r' :: '\n' :: rest => prepend (some '\n') (multilineLiteral? rest)
  | '\n' :: rest => prepend (some '\n') (multilineLiteral? rest)
  | char :: rest => if isPlain char then prepend (some char) (multilineLiteral? rest) else none

/-- Drops the line break that may follow an opening threefold mark. -/
def dropLineBreak : List Char → List Char
  | '\n' :: rest => rest
  | '\r' :: '\n' :: rest => rest
  | rest => rest

/-- Reads a string in any of the four forms, from its opening mark on. -/
def string? : List Char → Option (List Char × List Char)
  | '"' :: '"' :: '"' :: rest => multilineBasic? false (dropLineBreak rest)
  | '"' :: rest => basic? rest
  | '\'' :: '\'' :: '\'' :: rest => multilineLiteral? (dropLineBreak rest)
  | '\'' :: rest => literal? rest
  | _ => none

end RaceSentry.Toml
