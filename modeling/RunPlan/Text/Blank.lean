/-!
White space and trimming of character lists. Main statements: a text keeps its start exactly when
no white space stands there, and trimming the start again changes nothing.
-/

set_option autoImplicit false

namespace RunPlan.Text

def isBlank (c : Char) : Bool :=
  let n := c.toNat
  (9 ≤ n && n ≤ 13) || n == 0x20 || n == 0x85 || n == 0xA0 || n == 0x1680 ||
    (0x2000 ≤ n && n ≤ 0x200A) || n == 0x2028 || n == 0x2029 || n == 0x202F ||
    n == 0x205F || n == 0x3000

def trimStart (s : List Char) : List Char := s.dropWhile isBlank

def trimEnd (s : List Char) : List Char := (trimStart s.reverse).reverse

def trim (s : List Char) : List Char := trimEnd (trimStart s)

def allBlank (s : List Char) : Bool := s.all isBlank

theorem trimStart_eq_nil_iff {s : List Char} : trimStart s = [] ↔ allBlank s = true := by
  induction s with
  | nil => simp [trimStart, allBlank]
  | cons c r ih =>
    cases h : isBlank c with
    | true =>
      rw [show trimStart (c :: r) = trimStart r by simp [trimStart, h], ih]
      simp [allBlank, h]
    | false => simp [trimStart, allBlank, h]

theorem trimStart_cons_of_not_blank {c : Char} {r : List Char} (h : isBlank c = false) :
    trimStart (c :: r) = c :: r := by
  simp [trimStart, h]

theorem trimStart_cons_of_blank {c : Char} {r : List Char} (h : isBlank c = true) :
    trimStart (c :: r) = trimStart r := by
  simp [trimStart, h]

theorem trimStart_eq_self_iff {s : List Char} :
    trimStart s = s ↔ ∀ c ∈ s.head?, isBlank c = false := by
  cases s with
  | nil => simp [trimStart]
  | cons c r =>
    cases h : isBlank c with
    | false => simp [trimStart_cons_of_not_blank h, h]
    | true =>
      rw [trimStart_cons_of_blank h]
      constructor
      · intro he
        have hl : (trimStart r).length ≤ r.length := by
          exact (List.dropWhile_sublist isBlank).length_le
        rw [he, List.length_cons] at hl
        omega
      · intro hc
        simp [h] at hc

theorem trimStart_trimStart (s : List Char) : trimStart (trimStart s) = trimStart s := by
  induction s with
  | nil => rfl
  | cons c r ih =>
    cases h : isBlank c with
    | true => rw [trimStart_cons_of_blank h]; exact ih
    | false => rw [trimStart_cons_of_not_blank h, trimStart_cons_of_not_blank h]

end RunPlan.Text
