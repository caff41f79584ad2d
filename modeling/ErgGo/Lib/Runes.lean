import ErgGo.Lib.GoRuntime

/-!
# Go strings as bytes and as runes

A Go string is a sequence of bytes, which need not be UTF-8. `for range` and the functions
of `strings` and `unicode` read it rune by rune, an invalid byte as U+FFFD.
-/

namespace Go

def runeError : Char := '\ufffd'

/-- `utf8.DecodeRune`: none at a byte that begins no UTF-8 sequence. -/
def decodeRune (s : List UInt8) : Option Char := ByteArray.utf8DecodeChar? ⟨s.toArray⟩ 0

/-- The runes among the first bytes, at most as many as the fuel. -/
def runesWithin : ℕ → List UInt8 → List (Option Char)
  | 0, _ => []
  | _, [] => []
  | n + 1, b :: s =>
    match decodeRune (b :: s) with
    | some c => some c :: runesWithin n ((b :: s).drop c.utf8Size)
    | none => none :: runesWithin n s

def runes (s : List UInt8) : List (Option Char) := runesWithin s.length s

/-- `strings.ToLower`, as runes. -/
def lowerRunes [Library] (s : List UInt8) : List Char :=
  (runes s).map (fun r => Library.toLower (r.getD runeError))

/-- `strings.Fields`. -/
def fields (s : List Char) : List (List Char) := (s.splitOnP isSpace).filter (· ≠ [])

/-- `[]byte(string(s))`. -/
def encodeRunes (s : List Char) : List UInt8 := s.flatMap String.utf8EncodeChar

class Unicode where
  /-- `unicode.IsLetter`. -/
  isLetter : Char → Bool
  /-- `unicode.IsDigit`. -/
  isDigit : Char → Bool

/-- The ASCII letters and digits. -/
@[reducible] def asciiUnicode : Unicode := ⟨Char.isAlpha, Char.isDigit⟩

/-- `strings.Join(strings.Fields(s), " ")`. -/
def joinFields (s : String) : String := String.ofList ([' '].intercalate (fields s.toList))

/-- `strings.Trim`. -/
def trim (s : List Char) (cutset : List Char) : List Char :=
  ((s.dropWhile (· ∈ cutset)).reverse.dropWhile (· ∈ cutset)).reverse

/-- `s[:n]`, where U+FFFD stands for the bytes of a rune that is cut. -/
def takeBytes : ℕ → List Char → List Char
  | _, [] => []
  | n, c :: s =>
    if c.utf8Size ≤ n then c :: takeBytes (n - c.utf8Size) s else if n = 0 then [] else [runeError]

end Go
