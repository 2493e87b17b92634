import DnsBlocklist.Text.Decimal

/-! Fields of a line. Texts without blanks and control characters can be told apart again when they are
written with one space between neighbours. -/

namespace DnsBlocklist.Text
set_option autoImplicit false

/-- The text has no blanks and no control characters. -/
def Unbroken (t : Text) : Prop := ∀ c ∈ t, isBlank c = false ∧ isControl c = false

instance (t : Text) : Decidable (Unbroken t) :=
  List.decidableBAll (fun c => isBlank c = false ∧ isControl c = false) t

theorem Unbroken.append {t u : Text} (ht : Unbroken t) (hu : Unbroken u) : Unbroken (t ++ u) := by
  intro c hc
  exact (List.mem_append.mp hc).elim (ht c) (hu c)

theorem unbroken_flatten {ts : List Text} (h : ∀ t ∈ ts, Unbroken t) : Unbroken ts.flatten := by
  intro c hc
  obtain ⟨t, ht, hct⟩ := List.mem_flatten.mp hc
  exact h t ht c hct

theorem unbroken_flatMap {α : Type} {write : α → Text} {xs : List α}
    (h : ∀ x ∈ xs, Unbroken (write x)) : Unbroken (xs.flatMap write) := by
  intro c hc
  obtain ⟨x, hx, hcx⟩ := List.mem_flatMap.mp hc
  exact h x hx c hcx

/-! Numbers. -/

theorem exists_digitChar_of_mem_toDigits {base : Nat} (hbase : 1 < base) {n : Nat} {c : Char}
    (hc : c ∈ Nat.toDigits base n) : ∃ d, d < base ∧ c = d.digitChar := by
  induction n using Nat.strongRecOn with
  | _ n ih =>
    rw [Nat.toDigits_eq_if hbase] at hc
    split at hc
    · rename_i hlt
      exact ⟨n, hlt, List.mem_singleton.mp hc⟩
    · rename_i hle
      rcases List.mem_append.mp hc with hc | hc
      · exact ih (n / base) (Nat.div_lt_self (by omega) hbase) hc
      · exact ⟨n % base, Nat.mod_lt n (by omega), List.mem_singleton.mp hc⟩

theorem unbroken_toDigits {base : Nat} (hbase : 1 < base) (hle : base ≤ 16) (n : Nat) :
    Unbroken (Nat.toDigits base n) := by
  have hdigits : ∀ d, d < 16 → isBlank d.digitChar = false ∧ isControl d.digitChar = false := by
    decide
  intro c hc
  obtain ⟨d, hd, rfl⟩ := exists_digitChar_of_mem_toDigits hbase hc
  exact hdigits d (Nat.lt_of_lt_of_le hd hle)

theorem unbroken_write (n : Nat) : Unbroken (Decimal.write n) :=
  unbroken_toDigits (by decide) (by decide) n

/-! Texts with a separator between them. -/

theorem join_cons_cons (sep t u : Text) (ts : List Text) :
    join sep (t :: u :: ts) = t ++ sep ++ join sep (u :: ts) := rfl

theorem join_eq_intercalate (sep : Text) (ts : List Text) : join sep ts = sep.intercalate ts := by
  induction ts with
  | nil => rfl
  | cons t ts ih =>
    cases ts with
    | nil => simp [join]
    | cons u us => rw [join_cons_cons, ih, List.intercalate_cons_cons]

theorem splitOn_join {d : Char} {ts : List Text} (hne : ts ≠ []) (h : ∀ t ∈ ts, d ∉ t) :
    (join [d] ts).splitOn d = ts := by
  rw [join_eq_intercalate]
  exact List.splitOn_intercalate d h hne

theorem join_splitOn (d : Char) (t : Text) : join [d] (t.splitOn d) = t := by
  rw [join_eq_intercalate]
  exact List.intercalate_splitOn d

/-- Putting `w` in place of every `d` joins the pieces between them by `w`. -/
theorem flatMap_eq_join_splitOn (d : Char) (w t : Text) :
    (t.flatMap fun c => if c == d then w else [c]) = join w (t.splitOn d) := by
  induction t with
  | nil => rfl
  | cons c t ih =>
    obtain ⟨first, others, hpieces⟩ := List.exists_cons_of_ne_nil (List.splitOn_ne_nil d t)
    rw [List.flatMap_cons, ih, List.splitOn_cons_eq_if_modifyHead, hpieces]
    split
    · rw [join_cons_cons, List.nil_append]
    · rw [List.modifyHead_cons]
      cases others with
      | nil => rfl
      | cons second others => rfl

section Pieces
variable {α : Type} [BEq α] [LawfulBEq α]

theorem notMem_of_mem_splitOn {d : α} {xs piece : List α} (h : piece ∈ xs.splitOn d) :
    d ∉ piece := by
  induction xs generalizing piece with
  | nil =>
    rw [List.splitOn_nil, List.mem_singleton] at h
    exact h ▸ List.not_mem_nil
  | cons c xs ih =>
    rw [List.splitOn_cons_eq_if_modifyHead] at h
    split at h
    · rcases List.mem_cons.mp h with rfl | h
      · exact List.not_mem_nil
      · exact ih h
    · rename_i hc
      obtain ⟨first, others, hpieces⟩ := List.exists_cons_of_ne_nil (List.splitOn_ne_nil d xs)
      rw [hpieces, List.modifyHead_cons] at h
      rcases List.mem_cons.mp h with rfl | h
      · have hfirst : d ∉ first := ih (hpieces ▸ List.mem_cons_self)
        rw [List.mem_cons, not_or]
        exact ⟨fun heq => hc (beq_iff_eq.mpr heq.symm), hfirst⟩
      · exact ih (hpieces ▸ List.mem_cons_of_mem first h)

/-- What is written between `x` and `y` without the separator is in one piece, and the other pieces
are the same whatever it is. -/
theorem exists_splitOn_append (d : α) (x y : List α) :
    ∃ before p q after, ∀ m, d ∉ m →
      (x ++ m ++ y).splitOn d = before ++ (p ++ m ++ q) :: after := by
  induction x with
  | nil =>
    obtain ⟨q, after, hy⟩ := List.exists_cons_of_ne_nil (List.splitOn_ne_nil d y)
    -- What stands in front of the first piece of `y` joins it.
    refine ⟨[], [], q, after, fun m hm => ?_⟩
    simp only [List.nil_append]
    induction m with
    | nil => exact hy
    | cons c m ih =>
      have hc : ¬ (c == d) = true := fun heq =>
        hm (beq_iff_eq.mp heq ▸ List.mem_cons_self)
      rw [List.cons_append, List.splitOn_cons_eq_if_modifyHead, if_neg hc,
        ih fun hmem => hm (List.mem_cons_of_mem c hmem)]
      rfl
  | cons c x ih =>
    obtain ⟨before, p, q, after, h⟩ := ih
    have hcons : ∀ m, d ∉ m → (c :: x ++ m ++ y).splitOn d =
        if c == d then [] :: (before ++ (p ++ m ++ q) :: after)
        else (before ++ (p ++ m ++ q) :: after).modifyHead (List.cons c) := by
      intro m hm
      rw [List.cons_append, List.cons_append, List.splitOn_cons_eq_if_modifyHead, h m hm]
    -- A separator opens a piece. Anything else joins the first piece, which may be the one with `m`.
    by_cases hc : (c == d) = true
    · refine ⟨[] :: before, p, q, after, fun m hm => ?_⟩
      rw [hcons m hm, if_pos hc, List.cons_append]
    · cases before with
      | nil =>
        refine ⟨[], c :: p, q, after, fun m hm => ?_⟩
        rw [hcons m hm, if_neg hc]
        rfl
      | cons first before =>
        refine ⟨(c :: first) :: before, p, q, after, fun m hm => ?_⟩
        rw [hcons m hm, if_neg hc]
        rfl

end Pieces

theorem filter_join {p : Char → Bool} {d : Char} (hd : p d = true) {ts : List Text}
    (h : ∀ t ∈ ts, ∀ c ∈ t, p c = false) :
    (join [d] ts).filter p = List.replicate (ts.length - 1) d := by
  induction ts with
  | nil => rfl
  | cons t ts ih =>
    have ht : t.filter p = [] := by
      rw [List.filter_eq_nil_iff]
      intro c hc
      rw [h t List.mem_cons_self c hc]
      exact Bool.false_ne_true
    cases ts with
    | nil => exact ht
    | cons u us =>
      have hrest := ih fun t' ht' => h t' (List.mem_cons_of_mem t ht')
      rw [join_cons_cons, List.filter_append, List.filter_append, ht, hrest]
      simp [hd, List.replicate_succ]

theorem mem_join {sep : Text} {ts : List Text} {c : Char} (hc : c ∈ join sep ts) :
    c ∈ sep ∨ ∃ t ∈ ts, c ∈ t := by
  induction ts with
  | nil => exact absurd hc List.not_mem_nil
  | cons t ts ih =>
    cases ts with
    | nil => exact Or.inr ⟨t, List.mem_cons_self, hc⟩
    | cons u us =>
      rw [join_cons_cons, List.append_assoc] at hc
      rcases List.mem_append.mp hc with hc | hc
      · exact Or.inr ⟨t, List.mem_cons_self, hc⟩
      rcases List.mem_append.mp hc with hc | hc
      · exact Or.inl hc
      · exact (ih hc).imp_right fun ⟨t', ht', hct⟩ => ⟨t', List.mem_cons_of_mem t ht', hct⟩

theorem Unbroken.join {sep : Text} (hsep : Unbroken sep) {ts : List Text}
    (h : ∀ t ∈ ts, Unbroken t) : Unbroken (join sep ts) := by
  intro c hc
  rcases mem_join hc with hc | ⟨t, ht, hct⟩
  · exact hsep c hc
  · exact h t ht c hct

/-- A line of fields: one space between neighbours, a newline at the end, and no other blank or control
character. -/
structure IsLine (fields : List Text) (line : Text) : Prop where
  ends : line.getLast? = some '\n'
  control : line.filter isControl = ['\n']
  blanks : line.filter isBlank = List.replicate (fields.length - 1) ' ' ++ ['\n']
  fields : line.dropLast.splitOn ' ' = fields

theorem isLine_join {fields : List Text} (hne : fields ≠ []) (h : ∀ t ∈ fields, Unbroken t) :
    IsLine fields (join [' '] fields ++ ['\n']) := by
  have hcontrol : (join [' '] fields).filter isControl = [] := by
    rw [List.filter_eq_nil_iff]
    intro c hc
    rcases mem_join hc with hc | ⟨t, ht, hct⟩
    · rw [List.mem_singleton.mp hc]
      decide
    · rw [(h t ht c hct).2]
      exact Bool.false_ne_true
  refine ⟨List.getLast?_concat, ?_, ?_, ?_⟩
  · rw [List.filter_append, hcontrol]
    rfl
  · rw [List.filter_append, filter_join rfl fun t ht c hc => (h t ht c hc).1]
    rfl
  · rw [List.dropLast_concat]
    refine splitOn_join hne fun t ht hspace => ?_
    have hblank := (h t ht ' ' hspace).1
    cases hblank

end DnsBlocklist.Text
