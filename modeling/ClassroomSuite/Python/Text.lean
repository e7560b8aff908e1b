import Mathlib.Data.List.Sort
import Mathlib.Data.Rat.Defs

/-!
# Numbers and texts of the host language

The program is written in a language whose floating-point numbers, text methods and number
parsers are used by several of its parts. A float is given by its value. A file is decoded by strict
UTF-8, followed by the translation of line ends that opening it as text performs; the output of a
process is decoded with a replacement for what is not UTF-8. The text methods
that depend on the Unicode tables and on the grammar of number literals are the fields of a
`TextRuntime`, over which everything that uses them is stated.

## Main definitions

* `PyFloat`, `TextRuntime`, `asciiText`, `decimalText`.
* `decodeUtf8`, `universalNewlines`, `readText`.
* `decodeReplace`.
* `sortedTexts`.
-/

namespace ClassroomSuite.Python

/-- The value of a float. -/
inductive PyFloat where
  | finite (q : ℚ)
  | negZero
  | posInf
  | negInf
  | nan
  deriving DecidableEq

/-- Whether a float counts as true: every float but the two zeros. -/
def PyFloat.truthy : PyFloat → Bool
  | .finite q => q ≠ 0
  | .negZero => false
  | .posInf | .negInf | .nan => true

/-- The methods of texts and the number parsers. A parser returns nothing where it raises a value
error. -/
structure TextRuntime where
  upper : String → String
  lower : String → String
  strip : String → String
  repr : String → String
  parseInt : String → Option ℤ
  parseFloat : String → Option PyFloat

/-- Texts in their order (`sorted`). -/
def sortedTexts (texts : List String) : List String := texts.insertionSort (· ≤ ·)

theorem pairwise_sortedTexts (texts : List String) : (sortedTexts texts).Pairwise (· ≤ ·) := by
  have htrans : IsTrans String (· ≤ ·) := ⟨fun _ _ _ => String.le_trans⟩
  have htotal : Std.Total (α := String) (· ≤ ·) := ⟨String.le_total⟩
  exact List.pairwise_insertionSort _ texts

theorem mem_sortedTexts {texts : List String} {s : String} : s ∈ sortedTexts texts ↔ s ∈ texts :=
  List.mem_insertionSort _

/-- The runtime on plain ASCII texts: without quotes, and with no number but an integer. -/
def asciiText : TextRuntime where
  upper s := String.ofList (s.toList.map Char.toUpper)
  lower s := String.ofList (s.toList.map Char.toLower)
  strip s :=
    let trim (cs : List Char) := cs.dropWhile Char.isWhitespace
    String.ofList (trim (trim s.toList).reverse).reverse
  repr s := "'" ++ s ++ "'"
  parseInt s := s.toInt?
  parseFloat _ := none

/-- The number that decimal digits write. -/
def parseDigits (digits : List Char) : Option ℕ :=
  if digits ≠ [] ∧ digits.all Char.isDigit then
    some (digits.foldl (fun n c => 10 * n + (c.toNat - '0'.toNat)) 0)
  else none

/-- The runtime on plain ASCII texts in which digits are numbers, also on both sides of a point. -/
def decimalText : TextRuntime where
  upper := asciiText.upper
  lower := asciiText.lower
  strip := asciiText.strip
  repr := asciiText.repr
  parseInt s := (parseDigits s.toList).map Int.ofNat
  parseFloat s :=
    match s.toList.splitOn '.' with
    | [whole, fraction] => do
      let n ← parseDigits whole
      let m ← parseDigits fraction
      return .finite (n + m / 10 ^ fraction.length)
    | _ => none

/-- Strict UTF-8 decoding. -/
def decodeUtf8 (bytes : List UInt8) : Option String := String.fromUTF8? ⟨bytes.toArray⟩

/-- A text is decoded from its encoding. -/
theorem decodeUtf8_toUTF8 (s : String) : decodeUtf8 s.toUTF8.data.toList = some s :=
  dif_pos s.isValidUTF8

/-- Line ends as text files are read: a carriage return, alone or before a line feed, is a line
feed. -/
def universalNewlines : List Char → List Char
  | [] => []
  | '\r' :: '\n' :: cs => '\n' :: universalNewlines cs
  | '\r' :: cs => '\n' :: universalNewlines cs
  | c :: cs => c :: universalNewlines cs

/-- The text of a file with these bytes, if they are UTF-8. -/
def readText (bytes : List UInt8) : Option String :=
  (decodeUtf8 bytes).map fun s => String.ofList (universalNewlines s.toList)

/-- The bits that a first byte contributes to its character, and the ranges of the bytes that
continue it. No character begins with any other byte. -/
def utf8Lead (b : ℕ) : Option (ℕ × List (ℕ × ℕ)) :=
  if b < 0x80 then some (b, [])
  else if b < 0xC2 then none
  else if b < 0xE0 then some (b - 0xC0, [(0x80, 0xBF)])
  -- Overlong forms, surrogates and numbers beyond the last character are no characters.
  else if b = 0xE0 then some (0, [(0xA0, 0xBF), (0x80, 0xBF)])
  else if b = 0xED then some (0xD, [(0x80, 0x9F), (0x80, 0xBF)])
  else if b < 0xF0 then some (b - 0xE0, [(0x80, 0xBF), (0x80, 0xBF)])
  else if b = 0xF0 then some (0, [(0x90, 0xBF), (0x80, 0xBF), (0x80, 0xBF)])
  else if b < 0xF4 then some (b - 0xF0, [(0x80, 0xBF), (0x80, 0xBF), (0x80, 0xBF)])
  else if b = 0xF4 then some (4, [(0x80, 0x8F), (0x80, 0xBF), (0x80, 0xBF)])
  else none

/-- A character whose last byte has been read is put out. -/
def utf8Emit : ℕ × List (ℕ × ℕ) → List Char × (ℕ × List (ℕ × ℕ))
  | (value, []) => ([Char.ofNat value], (0, []))
  | pending => ([], pending)

/-- A byte where a character begins. -/
def utf8Begin (b : ℕ) : List Char × (ℕ × List (ℕ × ℕ)) :=
  match utf8Lead b with
  | none => (['\uFFFD'], (0, []))
  | some pending => utf8Emit pending

/-- One byte of the decoding. A byte that does not continue the pending character begins another
one, and the bytes read before it are replaced. -/
def utf8Step (b : ℕ) : ℕ × List (ℕ × ℕ) → List Char × (ℕ × List (ℕ × ℕ))
  | (_, []) => utf8Begin b
  | (value, (low, high) :: ranges) =>
    if low ≤ b ∧ b ≤ high then utf8Emit (value * 64 + (b - 0x80), ranges)
    else ('\uFFFD' :: (utf8Begin b).1, (utf8Begin b).2)

/-- Decode bytes behind the first bytes of a character, which are pending with the ranges of those
to come. -/
def decodeReplaceFrom (pending : ℕ × List (ℕ × ℕ)) : List UInt8 → List Char
  | [] => if pending.2 = [] then [] else ['\uFFFD']
  | b :: bytes =>
    (utf8Step b.toNat pending).1 ++ decodeReplaceFrom (utf8Step b.toNat pending).2 bytes

/-- UTF-8 decoding with a replacement character for each part that is not UTF-8. -/
def decodeReplace (bytes : List UInt8) : String :=
  String.ofList (decodeReplaceFrom (0, []) bytes)

example : readText [104, 13, 10, 105] = some "h\ni" := by decide +kernel

example : readText [255] = none := by decide +kernel

example : decodeReplace [0xE2, 0x82, 0xAC, 0xE2, 0x28, 0xA1, 0xF0, 0x9F] =
    "€\uFFFD(\uFFFD\uFFFD" := by decide +kernel

end ClassroomSuite.Python
