/-!
# Letters regardless of case

Case folding, as far as a comparison with an ASCII word can tell. A character that folds to ASCII letters is
replaced by them; every other character stays what it is, and keeps the text from being an ASCII word.
-/

namespace BuildOrder.Text

/-- The ASCII letters that a character folds to, or the character itself. -/
def fold (c : Char) : List Char :=
  if c.toNat < 0x80 then [c.toLower]
  else match c.toNat with
    | 0xdf => ['s', 's']
    | 0x17f => ['s']
    | 0x1e9e => ['s', 's']
    | 0x212a => ['k']
    | 0xfb00 => ['f', 'f']
    | 0xfb01 => ['f', 'i']
    | 0xfb02 => ['f', 'l']
    | 0xfb03 => ['f', 'f', 'i']
    | 0xfb04 => ['f', 'f', 'l']
    | 0xfb05 => ['s', 't']
    | 0xfb06 => ['s', 't']
    | _ => [c]

def folded (s : String) : List Char := s.toList.flatMap fold

def asciiLower (s : String) : String := String.ofList (s.toList.map Char.toLower)

end BuildOrder.Text
