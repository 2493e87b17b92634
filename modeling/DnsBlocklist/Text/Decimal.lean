import DnsBlocklist.Text.Basic

/-! Decimal numbers as text. A number is a non-empty run of ASCII digits; leading zeros are free. -/

namespace DnsBlocklist.Decimal
set_option autoImplicit false

def value (digits : Text) : Nat := digits.foldl (fun n d => 10 * n + (d.toNat - 48)) 0

def read? (t : Text) : Option Nat :=
  if !t.isEmpty && t.all Char.isDigit then some (value t) else none

/-- A number between `low` and `high`, both included. -/
def readWithin? (low high : Nat) (t : Text) : Option Nat :=
  (read? t).filter fun n => low ≤ n && n ≤ high

/-- As `readWithin?`, with one plus sign allowed in front. -/
def readPlusWithin? (low high : Nat) : Text → Option Nat
  | '+' :: t => readWithin? low high t
  | t => readWithin? low high t

def write (n : Nat) : Text := Nat.toDigits 10 n

theorem readWithin?_eq_some_iff {low high n : Nat} {t : Text} :
    readWithin? low high t = some n ↔
      t ≠ [] ∧ (∀ c ∈ t, c.isDigit = true) ∧ value t = n ∧ low ≤ n ∧ n ≤ high := by
  simp only [readWithin?, read?, Option.filter_eq_some_iff, Option.ite_none_right_eq_some,
    Option.some.injEq, Bool.and_eq_true, Bool.not_eq_true', List.isEmpty_eq_false_iff,
    List.all_eq_true, decide_eq_true_eq, ne_eq]
  constructor
  · rintro ⟨⟨⟨h1, h2⟩, h3⟩, h4, h5⟩
    exact ⟨h1, h2, h3, h4, h5⟩
  · rintro ⟨h1, h2, h3, h4, h5⟩
    exact ⟨⟨⟨h1, h2⟩, h3⟩, h4, h5⟩

end DnsBlocklist.Decimal
