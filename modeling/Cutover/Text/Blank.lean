/-!
# White space

The characters with the property White_Space, and trimming by them. Scripts, domain names and
the error output of external commands are all read with this one class.
-/
namespace Cutover.Text

/-- The characters with the property White_Space. -/
def blanks : List Char :=
  ['\t', '\n', '\u000b', '\u000c', '\r', ' ', '\u0085', '\u00a0', '\u1680', '\u2000', '\u2001',
    '\u2002', '\u2003', '\u2004', '\u2005', '\u2006', '\u2007', '\u2008', '\u2009', '\u200a',
    '\u2028', '\u2029', '\u202f', '\u205f', '\u3000']

def isBlank (c : Char) : Bool := blanks.contains c

@[simp] theorem isBlank_iff (c : Char) : isBlank c = true ↔ c ∈ blanks := by
  simp [isBlank]

/-- Drops white space at the end. -/
def trimEnd (s : List Char) : List Char := (s.reverse.dropWhile isBlank).reverse

/-- Drops white space at both ends. -/
def trim (s : List Char) : List Char := trimEnd (s.dropWhile isBlank)

end Cutover.Text
