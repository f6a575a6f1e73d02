/-!
# `FrontMatter.Text.Blank` — blank characters and trimming

The characters that count as blank around a text, and the removal of a run of characters from either
end.

## Contents

* `isBlank`: the blank characters, the two ends of a text and its line breaks included.
* `trimStart`, `trimEnd`, `trim`: drop the longest run of a class at the start, the end, both.
* `strip`, `isBlankText`: the same for blanks, on a text.
-/

namespace FrontMatter.Text

/-! ## The class -/

/-- A blank: tab, the line breaks, the four separators, the space, and the wide and narrow
spaces. -/
def isBlank (c : Char) : Bool :=
  let n := c.toNat
  (0x09 ≤ n && n ≤ 0x0D) || (0x1C ≤ n && n ≤ 0x20) || n == 0x85 || n == 0xA0 || n == 0x1680
    || (0x2000 ≤ n && n ≤ 0x200A) || n == 0x2028 || n == 0x2029 || n == 0x202F || n == 0x205F
    || n == 0x3000

/-! ## Trimming -/

/-- Drops the longest run of `p` at the start. -/
def trimStart (p : Char → Bool) (cs : List Char) : List Char :=
  cs.dropWhile p

/-- Drops the longest run of `p` at the end. -/
def trimEnd (p : Char → Bool) (cs : List Char) : List Char :=
  (cs.reverse.dropWhile p).reverse

/-- Drops the longest run of `p` at either end. -/
def trim (p : Char → Bool) (cs : List Char) : List Char :=
  trimEnd p (trimStart p cs)

/-- A text without the blanks around it. -/
def strip (s : String) : String :=
  String.ofList (trim isBlank s.toList)

/-- A text of blanks only. -/
def isBlankText (s : String) : Bool :=
  s.toList.all isBlank

/-! ## Facts -/

/-- A run of the class at the end is dropped. -/
theorem trimEnd_append_of_all (p : Char → Bool) (cs ds : List Char) (h : ∀ d ∈ ds, p d = true) :
    trimEnd p (cs ++ ds) = trimEnd p cs := by
  have hdrop : (ds.reverse ++ cs.reverse).dropWhile p = cs.reverse.dropWhile p :=
    List.dropWhile_append_of_pos fun d hd => h d (List.mem_reverse.mp hd)
  simp [trimEnd, hdrop]

end FrontMatter.Text
