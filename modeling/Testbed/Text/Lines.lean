/-!
# Lines and blanks

Cutting text at a character, trimming the characters of Unicode's `White_Space` class from both
ends, and searching for a piece of text. All work on lists of characters; `String` forms follow.
-/

namespace Testbed.Text

/-- The characters of Unicode's `White_Space` class. -/
def isBlank (c : Char) : Bool :=
  let n := c.toNat
  (9 ≤ n && n ≤ 13) || n == 0x20 || n == 0x85 || n == 0xA0 || n == 0x1680 ||
    (0x2000 ≤ n && n ≤ 0x200A) || n == 0x2028 || n == 0x2029 || n == 0x202F || n == 0x205F ||
    n == 0x3000

/-- The pieces between the occurrences of `sep`; one more piece than occurrences. -/
def cut (sep : Char) : List Char → List (List Char)
  | [] => [[]]
  | c :: r =>
    if c = sep then [] :: cut sep r
    else match cut sep r with
      | [] => [[c]]
      | p :: ps => (c :: p) :: ps

theorem cut_ne_nil (sep : Char) (s : List Char) : cut sep s ≠ [] := by
  cases s with
  | nil => simp [cut]
  | cons c r =>
    rw [cut]
    split
    · simp
    · split <;> simp

theorem cut_of_not_mem {sep : Char} {s : List Char} (h : sep ∉ s) : cut sep s = [s] := by
  induction s with
  | nil => rfl
  | cons c r ih =>
    have hc : c ≠ sep := fun e => h (by simp [e])
    have hr : sep ∉ r := fun e => h (List.mem_cons_of_mem _ e)
    simp [cut, hc, ih hr]

theorem cut_append_sep (sep : Char) (a b : List Char) :
    cut sep (a ++ sep :: b) = cut sep a ++ cut sep b := by
  induction a with
  | nil => simp [cut]
  | cons c r ih =>
    by_cases hc : c = sep
    · simp [cut, hc, ih]
    · rw [List.cons_append, cut, if_neg hc, ih, cut, if_neg hc]
      cases h : cut sep r with
      | nil => exact absurd h (cut_ne_nil sep r)
      | cons p ps => rfl

def trimStart (s : List Char) : List Char := s.dropWhile isBlank

def trimEnd (s : List Char) : List Char := (s.reverse.dropWhile isBlank).reverse

def trim (s : List Char) : List Char := trimEnd (trimStart s)

def occurs (piece : List Char) : List Char → Bool
  | [] => piece.isPrefixOf []
  | c :: r => piece.isPrefixOf (c :: r) || occurs piece r

def splitWhere (p : Char → Bool) (s : List Char) : List Char × List Char :=
  (s.takeWhile (!p ·), s.dropWhile (!p ·))

theorem splitWhere_append (p : Char → Bool) (s : List Char) :
    (splitWhere p s).1 ++ (splitWhere p s).2 = s := List.takeWhile_append_dropWhile

/-- The text split around the first `sep`, if there is one. -/
def splitOnce (sep : Char) : List Char → Option (List Char × List Char)
  | [] => none
  | c :: r =>
    if c = sep then some ([], r)
    else (splitOnce sep r).map fun (a, b) => (c :: a, b)

def unlines (ls : List String) : String := String.join (ls.map (· ++ "\n"))

def padLeft (width : Nat) (s : String) : String :=
  String.ofList (List.replicate (width - s.length) ' ') ++ s

end Testbed.Text
