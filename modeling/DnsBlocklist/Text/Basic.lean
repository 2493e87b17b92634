/-! Text as a list of characters: the blank and control characters of Unicode, trimming, and
cutting at the first character of a kind. -/

namespace DnsBlocklist
set_option autoImplicit false

abbrev Text := List Char

abbrev Bytes := List UInt8

namespace Text

/-- The characters with the White_Space property. -/
def isBlank (c : Char) : Bool :=
  let n := c.toNat
  (9 ≤ n && n ≤ 13) || n == 0x20 || n == 0x85 || n == 0xA0 || n == 0x1680 ||
    (0x2000 ≤ n && n ≤ 0x200A) || n == 0x2028 || n == 0x2029 || n == 0x202F ||
    n == 0x205F || n == 0x3000

/-- The characters of general category Cc. -/
def isControl (c : Char) : Bool :=
  let n := c.toNat
  n < 0x20 || (0x7F ≤ n && n < 0xA0)

def trim (t : Text) : Text :=
  ((t.dropWhile isBlank).reverse.dropWhile isBlank).reverse

/-- The text before and the text after the first character that satisfies `p`. -/
def cut? (p : Char → Bool) : Text → Option (Text × Text)
  | [] => none
  | c :: cs => if p c then some ([], cs) else (cut? p cs).map fun (a, b) => (c :: a, b)

theorem cut?_eq_none_iff (p : Char → Bool) (t : Text) :
    cut? p t = none ↔ ∀ c ∈ t, p c = false := by
  induction t with
  | nil => simp [cut?]
  | cons c cs ih =>
    by_cases h : p c <;> simp [cut?, h, ih]

theorem eq_of_cut? {p : Char → Bool} {t a b : Text} (h : cut? p t = some (a, b)) :
    ∃ c, p c = true ∧ (∀ x ∈ a, p x = false) ∧ t = a ++ c :: b := by
  induction t generalizing a b with
  | nil => simp [cut?] at h
  | cons c cs ih =>
    by_cases hc : p c
    · simp only [cut?, hc, if_true, Option.some.injEq, Prod.mk.injEq] at h
      obtain ⟨rfl, rfl⟩ := h
      exact ⟨c, hc, by simp, rfl⟩
    · simp only [cut?, hc, if_false, Option.map_eq_some_iff, Bool.false_eq_true] at h
      obtain ⟨⟨a', b'⟩, hcut, heq⟩ := h
      simp only [Prod.mk.injEq] at heq
      obtain ⟨rfl, rfl⟩ := heq
      obtain ⟨d, hd, ha, rfl⟩ := ih hcut
      exact ⟨d, hd, by simpa [hc] using ha, rfl⟩

theorem cut?_append_cons {p : Char → Bool} {a : Text} {c : Char} (ha : ∀ x ∈ a, p x = false)
    (hc : p c = true) (b : Text) : cut? p (a ++ c :: b) = some (a, b) := by
  induction a with
  | nil => simp [cut?, hc]
  | cons d a ih =>
    have hd : p d = false := ha d List.mem_cons_self
    have htail := ih fun x hx => ha x (List.mem_cons_of_mem d hx)
    simp [cut?, hd, htail]

theorem cut?_char_eq_none_iff (d : Char) (t : Text) : cut? (· == d) t = none ↔ d ∉ t := by
  rw [cut?_eq_none_iff]
  constructor
  · intro h hmem
    simpa using h d hmem
  · intro h c hc
    rw [beq_eq_false_iff_ne]
    rintro rfl
    exact h hc

theorem cut?_char_eq_some_iff (d : Char) (t a b : Text) :
    cut? (· == d) t = some (a, b) ↔ d ∉ a ∧ t = a ++ d :: b := by
  constructor
  · intro h
    obtain ⟨c, hc, ha, rfl⟩ := eq_of_cut? h
    obtain rfl : c = d := beq_iff_eq.mp hc
    exact ⟨fun hmem => by simpa using ha c hmem, rfl⟩
  · rintro ⟨ha, rfl⟩
    refine cut?_append_cons (p := (· == d)) (fun c hc => ?_) (beq_self_eq_true d) b
    rw [beq_eq_false_iff_ne]
    rintro rfl
    exact ha hc

theorem trim_cons_of_isBlank {c : Char} (hc : isBlank c = true) (t : Text) :
    trim (c :: t) = trim t := by
  simp [trim, hc]

/-- The texts joined, with `sep` between neighbours. -/
def join (sep : Text) : List Text → Text
  | [] => []
  | [t] => t
  | t :: ts => t ++ sep ++ join sep ts

/-- The text inside the quotes that messages use. -/
def quoted (t : Text) : Text := "`".toList ++ t ++ "'".toList

end Text

end DnsBlocklist
