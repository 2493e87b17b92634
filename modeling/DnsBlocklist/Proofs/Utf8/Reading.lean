import DnsBlocklist.Proofs.Utf8.Characters

/-! Bytes as text. What the decoder gives is the one reading of the bytes as characters and ill-formed
sequences. A newline always ends what came before it, so text is decoded line by line. -/

namespace DnsBlocklist.Utf8
set_option autoImplicit false

/-- Of `p ++ rest`, which starts with no character, `p` is the longest beginning that a character could
have had, and one byte where no character starts with the first one. -/
structure IllFormed (p rest : Bytes) : Prop where
  nonempty : p ≠ []
  startless : ∀ c, ¬ String.utf8EncodeChar c <+: p ++ rest
  begins : 1 < p.length → ∃ c, p <+: String.utf8EncodeChar c
  longest : ∀ q c, q <+: p ++ rest → q <+: String.utf8EncodeChar c → q.length ≤ p.length

/-- Bytes as the characters they stand for, with `none` for each ill-formed sequence. -/
inductive Reads : Bytes → List (Option Char) → Prop where
  | nil : Reads [] []
  | char {c : Char} {rest : Bytes} {cs : List (Option Char)} :
      Reads rest cs → Reads (String.utf8EncodeChar c ++ rest) (some c :: cs)
  | illFormed {p rest : Bytes} {cs : List (Option Char)} :
      IllFormed p rest → Reads rest cs → Reads (p ++ rest) (none :: cs)

variable {b : UInt8} {u : Unfinished} {q : Bytes} {c : Char}

/-! What the decoder remembers. -/

/-- The bytes begin a character, and `u` is what is left of it. -/
structure Awaits (p : Bytes) (u : Unfinished) : Prop where
  nonempty : p ≠ []
  takes : ∃ b, u.Takes b
  ends : ∀ q c, String.utf8EncodeChar c = p ++ q ↔ Completes u q c

variable {p rest : Bytes}

theorem awaits_of_opens (h : Opens b u) : Awaits [b] u where
  nonempty := List.cons_ne_nil b []
  takes := h.takes
  ends q c := by
    constructor
    · intro hc
      rcases opens_of_utf8EncodeChar hc with ⟨hlow, hb, -⟩ | ⟨v, hv, hq⟩
      · have := h.le
        omega
      · rwa [h.unique hv]
    · exact fun hq => hq.utf8EncodeChar_eq h

theorem Awaits.more (h : Awaits p u) (hmore : 1 < u.missing) (hb : u.Takes b) :
    Awaits (p ++ [b]) ⟨u.bitsAfter b, u.missing - 1, 0x80, 0xBF⟩ where
  nonempty := by simp
  takes := ⟨0x80, takes_following ..⟩
  ends q c := by
    rw [List.append_assoc, List.singleton_append, h.ends]
    constructor
    · intro hq
      cases hq with
      | last hlast _ => exact absurd hlast (Nat.not_le.mpr hmore)
      | more _ _ hq => exact hq
    · exact .more hmore hb

theorem Awaits.last (h : Awaits p u) (hlast : u.missing ≤ 1) (hb : u.Takes b) :
    String.utf8EncodeChar (Char.ofNat (u.bitsAfter b)) = p ++ [b] :=
  (h.ends [b] _).mpr (.last hlast hb)

/-- A character that cannot go on is ill-formed. -/
theorem Awaits.illFormed (h : Awaits p u) (hrest : ∀ b ∈ rest.head?, ¬ u.Takes b) :
    IllFormed p rest := by
  obtain ⟨q₀, d, hd⟩ := exists_completes h.takes
  have hbegun := (h.ends q₀ d).mpr hd
  have hstuck : ∀ {r s : Bytes} {c : Char}, r ≠ [] → r <+: rest →
      String.utf8EncodeChar c ≠ p ++ (r ++ s) := by
    intro r s c hr hprefix hc
    obtain ⟨b, r, rfl⟩ := List.exists_cons_of_ne_nil hr
    obtain ⟨t, rfl⟩ := hprefix
    exact hrest b rfl ((h.ends _ c).mp hc).takes
  refine ⟨h.nonempty, fun c hc => ?_, fun _ => ⟨d, q₀, hbegun.symm⟩, fun q c hq hc => ?_⟩
  -- A character no longer than `p` would begin `d` and be it; a longer one would go on with `rest`.
  · rcases Nat.le_total (String.utf8EncodeChar c).length p.length with hlength | hlength
    · have hp := List.prefix_of_prefix_length_le hc (List.prefix_append p rest) hlength
      have hcd := eq_of_prefix_utf8EncodeChar (hp.trans ⟨q₀, hbegun.symm⟩)
      rw [hcd, hbegun, List.length_append] at hlength
      exact hd.ne_nil (List.length_eq_zero_iff.mp (by omega))
    · obtain ⟨r, hr⟩ := List.prefix_of_prefix_length_le (List.prefix_append p rest) hc hlength
      have hne : r ≠ [] := ((h.ends r c).mp hr.symm).ne_nil
      rw [← hr, List.prefix_append_right_inj] at hc
      exact hstuck (s := []) hne hc (by rw [List.append_nil, hr])
  · refine Nat.le_of_not_lt fun hlength => ?_
    obtain ⟨r, rfl⟩ :=
      List.prefix_of_prefix_length_le (List.prefix_append p rest) hq (Nat.le_of_lt hlength)
    obtain ⟨s, hs⟩ := hc
    rw [List.prefix_append_right_inj] at hq
    have hne : r ≠ [] := by
      rintro rfl
      simp at hlength
    exact hstuck hne hq (by rw [← hs, List.append_assoc])

theorem illFormed_singleton (h : ∀ c q, String.utf8EncodeChar c ≠ b :: q) (rest : Bytes) :
    IllFormed [b] rest where
  nonempty := List.cons_ne_nil b []
  startless c hc := by
    obtain ⟨r, hr⟩ := hc
    obtain ⟨x, q, hx⟩ := List.exists_cons_of_ne_nil (String.utf8EncodeChar_ne_nil (c := c))
    rw [hx] at hr
    exact h c q (hx.trans (by rw [(List.cons.inj hr).1]))
  begins hlength := absurd hlength (Nat.lt_irrefl 1)
  longest q c hq hc := by
    cases q with
    | nil => exact Nat.zero_le _
    | cons x q =>
      obtain ⟨r, hr⟩ := hc
      obtain ⟨t, ht⟩ := hq
      exact absurd (hr.symm.trans (by rw [(List.cons.inj ht).1]; rfl)) (h c (q ++ r))

theorem begin_cases (out : List (Option Char)) (b : UInt8) :
    (∃ u, Decoder.begin out b = ⟨some u, out⟩ ∧ Awaits [b] u) ∨
    (∃ c, Decoder.begin out b = ⟨none, some c :: out⟩ ∧ String.utf8EncodeChar c = [b]) ∨
    (Decoder.begin out b = ⟨none, none :: out⟩ ∧ ∀ rest, IllFormed [b] rest) := by
  unfold Decoder.begin
  split
  · rename_i hascii
    have hlow : b.toNat < 0x80 := UInt8.lt_iff_toNat_lt.mp hascii
    have hnum := toNat_of_eq_ofNat (c := Char.ofNat b.toNat) rfl (by omega)
    exact Or.inr (Or.inl ⟨Char.ofNat b.toNat, rfl, utf8EncodeChar_one (by omega) hnum.symm⟩)
  · rename_i hascii
    cases hopen : open? b with
    | some u => exact Or.inl ⟨u, rfl, awaits_of_opens ((open?_eq_some_iff b u).mp hopen)⟩
    | none =>
      refine Or.inr (Or.inr ⟨rfl, illFormed_singleton fun c q hc => ?_⟩)
      rcases opens_of_utf8EncodeChar hc with ⟨hlow, hb, -⟩ | ⟨u, hu, -⟩
      · rw [UInt8.lt_iff_toNat_lt] at hascii
        exact hascii (hb ▸ hlow)
      · rw [(open?_eq_some_iff b u).mpr hu] at hopen
        cases hopen

theorem step_unfinished (u : Unfinished) (out : List (Option Char)) (b : UInt8) :
    Decoder.step ⟨some u, out⟩ b =
      if u.low ≤ b && b ≤ u.high then
        if u.missing ≤ 1 then ⟨none, some (Char.ofNat (u.bitsAfter b)) :: out⟩
        else ⟨some ⟨u.bitsAfter b, u.missing - 1, 0x80, 0xBF⟩, out⟩
      else Decoder.begin (none :: out) b := rfl

theorem Awaits.step_cases (h : Awaits p u) (out : List (Option Char)) (b : UInt8) :
    (∃ v, Decoder.step ⟨some u, out⟩ b = ⟨some v, out⟩ ∧ Awaits (p ++ [b]) v) ∨
    (∃ c, Decoder.step ⟨some u, out⟩ b = ⟨none, some c :: out⟩ ∧
      String.utf8EncodeChar c = p ++ [b]) ∨
    (Decoder.step ⟨some u, out⟩ b = Decoder.begin (none :: out) b ∧
      ∀ rest, IllFormed p (b :: rest)) := by
  by_cases hb : u.Takes b
  · have htakes : (u.low ≤ b && b ≤ u.high) = true := by simpa [Unfinished.Takes] using hb
    rcases Nat.lt_or_ge 1 u.missing with hmore | hlast
    · refine Or.inl ⟨⟨u.bitsAfter b, u.missing - 1, 0x80, 0xBF⟩, ?_, h.more hmore hb⟩
      rw [step_unfinished, if_pos htakes, if_neg (Nat.not_le.mpr hmore)]
    · refine Or.inr (Or.inl ⟨Char.ofNat (u.bitsAfter b), ?_, h.last hlast hb⟩)
      rw [step_unfinished, if_pos htakes, if_pos hlast]
  · refine Or.inr (Or.inr ⟨?_, fun rest => h.illFormed fun x hx => ?_⟩)
    · have hnot : ¬ (u.low ≤ b && b ≤ u.high) = true := by simpa [Unfinished.Takes] using hb
      rw [step_unfinished, if_neg hnot]
    · rw [List.head?_cons, Option.mem_some_iff] at hx
      exact hx ▸ hb

/-- From where the decoder stands, it reads the bytes it remembers and those that follow. -/
theorem reads_foldl (bytes : Bytes) :
    (∀ out, ∃ cs, (bytes.foldl Decoder.step ⟨none, out⟩).finish = out.reverse ++ cs ∧
      Reads bytes cs) ∧
    ∀ p u out, Awaits p u → ∃ cs,
      (bytes.foldl Decoder.step ⟨some u, out⟩).finish = out.reverse ++ cs ∧
      Reads (p ++ bytes) cs := by
  induction bytes with
  | nil =>
    refine ⟨fun out => ⟨[], by simp [Decoder.finish], .nil⟩, fun p u out h => ?_⟩
    exact ⟨[none], by simp [Decoder.finish], .illFormed (h.illFormed (by simp)) .nil⟩
  | cons b bytes ih =>
    obtain ⟨ihStart, ihAwaits⟩ := ih
    have hbegin : ∀ out, ∃ cs,
        (bytes.foldl Decoder.step (Decoder.begin out b)).finish = out.reverse ++ cs ∧
        Reads (b :: bytes) cs := by
      intro out
      rcases begin_cases out b with ⟨u, hstep, hu⟩ | ⟨c, hstep, hc⟩ | ⟨hstep, hill⟩ <;> rw [hstep]
      · exact ihAwaits [b] u out hu
      · obtain ⟨cs, hcs, hreads⟩ := ihStart (some c :: out)
        refine ⟨some c :: cs, by simpa using hcs, ?_⟩
        simpa [hc] using Reads.char (c := c) hreads
      · obtain ⟨cs, hcs, hreads⟩ := ihStart (none :: out)
        exact ⟨none :: cs, by simpa using hcs, .illFormed (hill bytes) hreads⟩
    refine ⟨hbegin, fun p u out h => ?_⟩
    rw [List.foldl_cons]
    rcases h.step_cases out b with ⟨v, hstep, hv⟩ | ⟨c, hstep, hc⟩ | ⟨hstep, hill⟩ <;> rw [hstep]
    · simpa using ihAwaits (p ++ [b]) v out hv
    · obtain ⟨cs, hcs, hreads⟩ := ihStart (some c :: out)
      refine ⟨some c :: cs, by simpa using hcs, ?_⟩
      simpa [hc] using Reads.char (c := c) hreads
    · obtain ⟨cs, hcs, hreads⟩ := hbegin (none :: out)
      exact ⟨none :: cs, by simpa using hcs, .illFormed (hill bytes) hreads⟩

theorem reads_scan (bytes : Bytes) : Reads bytes (scan bytes) := by
  obtain ⟨cs, hcs, hreads⟩ := (reads_foldl bytes).1 []
  rw [scan, Decoder.start, hcs]
  exact hreads

theorem IllFormed.eq_left {rest' p' : Bytes} (h : IllFormed p rest) (h' : IllFormed p' rest')
    (heq : p ++ rest = p' ++ rest') : p = p' := by
  have hle : ∀ {p rest p' rest' : Bytes}, IllFormed p rest → IllFormed p' rest' →
      p ++ rest = p' ++ rest' → p.length ≤ p'.length := by
    intro p rest p' rest' h h' heq
    rcases Nat.lt_or_ge 1 p.length with hlong | hshort
    · obtain ⟨c, hc⟩ := h.begins hlong
      exact h'.longest p c (heq ▸ List.prefix_append p rest) hc
    · exact Nat.le_trans hshort (List.length_pos_iff.mpr h'.nonempty)
  exact List.append_inj_left heq (Nat.le_antisymm (hle h h' heq) (hle h' h heq.symm))

theorem Reads.unique {bytes : Bytes} {cs ds : List (Option Char)} (hc : Reads bytes cs)
    (hd : Reads bytes ds) : cs = ds := by
  induction hc generalizing ds with
  | nil =>
    generalize hbytes : ([] : Bytes) = bytes at hd
    cases hd with
    | nil => rfl
    | char _ => exact absurd (List.append_eq_nil_iff.mp hbytes.symm).1 String.utf8EncodeChar_ne_nil
    | illFormed hill _ => exact absurd (List.append_eq_nil_iff.mp hbytes.symm).1 hill.nonempty
  | @char c rest cs _ ih =>
    generalize hbytes : String.utf8EncodeChar c ++ rest = bytes at hd
    cases hd with
    | nil => exact absurd (List.append_eq_nil_iff.mp hbytes).1 String.utf8EncodeChar_ne_nil
    | @char d rest' ds hd =>
      have hcd : c = d := by
        rcases List.prefix_or_prefix_of_prefix (List.prefix_append (String.utf8EncodeChar c) rest)
          (hbytes ▸ List.prefix_append (String.utf8EncodeChar d) rest') with h | h
        · exact eq_of_prefix_utf8EncodeChar h
        · exact (eq_of_prefix_utf8EncodeChar h).symm
      subst hcd
      rw [ih (List.append_cancel_left hbytes ▸ hd)]
    | illFormed hill _ =>
      exact absurd (hbytes ▸ List.prefix_append (String.utf8EncodeChar c) rest) (hill.startless c)
  | @illFormed p rest cs hill _ ih =>
    generalize hbytes : p ++ rest = bytes at hd
    cases hd with
    | nil => exact absurd (List.append_eq_nil_iff.mp hbytes).1 hill.nonempty
    | @char d rest' ds _ =>
      exact absurd (hbytes ▸ List.prefix_append (String.utf8EncodeChar d) rest') (hill.startless d)
    | illFormed hill' hd =>
      have hp := hill.eq_left hill' hbytes
      subst hp
      rw [ih (List.append_cancel_left hbytes ▸ hd)]

theorem scan_eq_iff (bytes : Bytes) (cs : List (Option Char)) : scan bytes = cs ↔ Reads bytes cs := by
  constructor
  · rintro rfl
    exact reads_scan bytes
  · exact (reads_scan bytes).unique

/-! Texts, and bytes below 128 between other ones. -/

theorem scan_encode (t : Text) : scan (encode t) = t.map some := by
  rw [scan_eq_iff]
  induction t with
  | nil => exact .nil
  | cons c t ih => exact .char ih

/-- Decoding what was encoded gives the text back. -/
theorem decode_encode (t : Text) : decode (encode t) = t := by
  rw [decode, scan_encode, List.map_map]
  exact List.map_id t

theorem Reads.eq_encode {bytes : Bytes} {t : Text} (h : Reads bytes (t.map some)) :
    bytes = encode t := by
  induction t generalizing bytes with
  | nil =>
    cases h
    rfl
  | cons c t ih =>
    rw [List.map_cons] at h
    cases h with
    | char h => rw [ih h, encode_cons]

theorem mapM_id_eq_some_iff {α : Type} (os : List (Option α)) (xs : List α) :
    os.mapM id = some xs ↔ os = xs.map some := by
  induction os generalizing xs with
  | nil => cases xs <;> simp
  | cons o os ih =>
    simp only [List.mapM_cons, id_eq, Option.bind_eq_bind, Option.bind_eq_some_iff, Option.pure_def,
      Option.some.injEq, ih]
    cases xs with
    | nil => simp
    | cons x xs => simp

/-- Strict decoding reads what was encoded and nothing else. -/
theorem decode?_eq_some_iff (bytes : Bytes) (t : Text) :
    decode? bytes = some t ↔ bytes = encode t := by
  rw [decode?, mapM_id_eq_some_iff]
  constructor
  · intro h
    exact ((scan_eq_iff bytes _).mp h).eq_encode
  · rintro rfl
    exact scan_encode t

theorem IllFormed.append (h : IllFormed p rest) (hlow : b.toNat < 0x80) (bytes : Bytes) :
    IllFormed p (rest ++ b :: bytes) := by
  have hne : p ++ rest ≠ [] := fun hnil => h.nonempty (List.append_eq_nil_iff.mp hnil).1
  refine ⟨h.nonempty, fun c hc => ?_, h.begins, fun q c hq hc => ?_⟩
  · rw [← List.append_assoc] at hc
    exact h.startless c (prefix_of_prefix_append hne hlow hc List.prefix_rfl)
  · rw [← List.append_assoc] at hq
    exact h.longest q c (prefix_of_prefix_append hne hlow hq hc) hc

theorem Reads.append {x y : Bytes} {cs ds : List (Option Char)} (hx : Reads x cs) (hy : Reads y ds)
    (hc : String.utf8EncodeChar c = [b]) (hlow : b.toNat < 0x80) :
    Reads (x ++ b :: y) (cs ++ some c :: ds) := by
  induction hx with
  | nil =>
    have h := Reads.char (c := c) hy
    rwa [hc] at h
  | char _ ih =>
    rw [List.append_assoc]
    exact .char ih
  | illFormed hill _ ih =>
    rw [List.append_assoc]
    exact .illFormed (hill.append hlow y) ih

theorem Reads.mem {bytes : Bytes} {cs : List (Option Char)} (h : Reads bytes cs)
    (hc : String.utf8EncodeChar c = [b]) (hmem : some c ∈ cs) : b ∈ bytes := by
  induction h with
  | nil => cases hmem
  | char _ ih =>
    rcases List.mem_cons.mp hmem with heq | hmem
    · cases heq
      rw [hc]
      exact List.mem_cons_self
    · exact List.mem_append_right _ (ih hmem)
  | illFormed _ _ ih =>
    rcases List.mem_cons.mp hmem with heq | hmem
    · cases heq
    · exact List.mem_append_right _ (ih hmem)

theorem scan_append (x y : Bytes) (hc : String.utf8EncodeChar c = [b]) (hlow : b.toNat < 0x80) :
    scan (x ++ b :: y) = scan x ++ some c :: scan y :=
  (scan_eq_iff _ _).mpr ((reads_scan x).append (reads_scan y) hc hlow)

/-! Lines. -/

theorem decode_append_newline (x y : Bytes) :
    decode (x ++ 10 :: y) = decode x ++ '\n' :: decode y := by
  rw [decode, scan_append (b := 10) (c := '\n') x y rfl (by decide), List.map_append]
  rfl

theorem newline_mem_of_mem_decode {bytes : Bytes} (h : '\n' ∈ decode bytes) : 10 ∈ bytes := by
  obtain ⟨o, ho, hnewline⟩ := List.mem_map.mp h
  cases o with
  | none => exact absurd hnewline (by decide)
  | some c =>
    obtain rfl : c = '\n' := hnewline
    exact (reads_scan bytes).mem rfl ho

/-- The lines of decoded bytes are the decoded lines. -/
theorem splitOn_decode (bytes : Bytes) :
    (decode bytes).splitOn '\n' = (bytes.splitOn 10).map decode := by
  by_cases h : 10 ∈ bytes
  · obtain ⟨x, y, hbytes, hx⟩ := List.eq_append_cons_of_mem h
    have hfree : '\n' ∉ decode x := fun hmem => hx (newline_mem_of_mem_decode hmem)
    rw [hbytes, decode_append_newline, List.splitOn_append_cons_self_of_not_mem hfree,
      List.splitOn_append_cons_self_of_not_mem hx, splitOn_decode y, List.map_cons]
  · have hfree : '\n' ∉ decode bytes := fun hmem => h (newline_mem_of_mem_decode hmem)
    rw [List.splitOn_eq_singleton hfree, List.splitOn_eq_singleton h, List.map_singleton]
termination_by bytes.length
decreasing_by
  rw [hbytes, List.length_append, List.length_cons]
  omega

end DnsBlocklist.Utf8
